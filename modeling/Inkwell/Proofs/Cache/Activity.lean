import Inkwell.Proofs.Cache.Soundness

/-!
# Caches in use

A render may use the cache that asked for it, so while a cache is used there is a
stack of renders under way.  An activity is a cache with this stack and a log of
what has happened.  It moves when a request is made, when the innermost render
returns or fails, and when the cache is asked for a key or emptied; a key whose
render is under way cannot be requested.

The stack makes every sequence of moves well nested, and the moves between those
that put a render on the stack and take it off are what that render did with the
cache.
-/

namespace Inkwell

/-- Something that happened to a cache. -/
inductive CacheEvent where
  /-- A request was answered with the mask that its key had ready. -/
  | answered (key : CacheKey) (mask : Mask)
  /-- A request began to render. -/
  | began (key : CacheKey)
  /-- A render returned a mask, and so did its request. -/
  | rendered (key : CacheKey) (mask : Mask)
  /-- A render failed, and so did its request. -/
  | failed (key : CacheKey)
  /-- It was asked whether a key is cached. -/
  | looked (key : CacheKey) (answer : Bool)
  /-- The cache was emptied. -/
  | cleared
  deriving DecidableEq

/-- The mask of the event if it is a render of the key that returned. -/
def CacheEvent.renderOf? (event : CacheEvent) (key : CacheKey) : Option Mask :=
  match event with
  | .rendered other mask => if other = key then some mask else none
  | _ => none

/-- A use of the cache, or the end of the innermost render. -/
inductive CacheMove where
  | request (key : CacheKey)
  | finish (mask : Mask)
  | fail
  | contains (key : CacheKey)
  | clear

/-- A cache in use. -/
structure Activity where
  cache : Cache
  /-- The renders under way, innermost first, with the slots they are to
  fill. -/
  stack : List (CacheKey × Slot)
  /-- What has happened, latest first, each with the cache it happened to. -/
  log : List (CacheEvent × Cache)

namespace Activity

/-- A new cache. -/
def start (capacity : Nat) : Activity := ⟨Cache.create capacity, [], []⟩

/-- The key is being rendered. -/
def isRendering (a : Activity) (key : CacheKey) : Bool :=
  (a.stack.map Prod.fst).contains key

/-- The activity after an event that left a cache and a stack. -/
def after (a : Activity) (event : CacheEvent) (cache : Cache)
    (stack : List (CacheKey × Slot)) : Activity :=
  ⟨cache, stack, (event, a.cache) :: a.log⟩

/-- The activity in which a request has begun to render. -/
def enter (a : Activity) (key : CacheKey) : Activity :=
  a.after (.began key) (a.cache.reserve key).2
    ((key, (a.cache.reserve key).1) :: a.stack)

/-- One move; none when a key is requested whose render is under way, or when
there is no render to end. -/
def step (a : Activity) : CacheMove → Option Activity
  | .request key =>
      if a.isRendering key then
        none
      else
        match (a.cache.reserve key).2.filled? (a.cache.reserve key).1 with
        | some mask =>
            some (a.after (.answered key mask) (a.cache.reserve key).2.countHit
              a.stack)
        | none => some (a.enter key)
  | .finish mask =>
      match a.stack with
      | [] => none
      | (key, slot) :: rest =>
          some (a.after (.rendered key mask) (a.cache.complete key slot mask) rest)
  | .fail =>
      match a.stack with
      | [] => none
      | (key, _) :: rest => some (a.after (.failed key) a.cache rest)
  | .contains key =>
      some (a.after (.looked key (a.cache.contains key)) a.cache a.stack)
  | .clear => some (a.after .cleared a.cache.clear a.stack)

/-- Moves one after the other. -/
def run (a : Activity) : List CacheMove → Option Activity
  | [] => some a
  | move :: rest => (a.step move).bind (·.run rest)

theorem run_append (a : Activity) (first second : List CacheMove) :
    a.run (first ++ second) = (a.run first).bind (·.run second) := by
  induction first generalizing a with
  | nil => rfl
  | cons move rest inductionHypothesis =>
      simp only [List.cons_append, run, Option.bind_assoc, inductionHypothesis]

/-- The mask that the latest render of a key returned. -/
def lastRender? (a : Activity) (key : CacheKey) : Option Mask :=
  a.log.findSome? (·.1.renderOf? key)

theorem lastRender?_after {a : Activity} {event : CacheEvent} {cache : Cache}
    {stack : List (CacheKey × Slot)} {key : CacheKey} :
    (a.after event cache stack).lastRender? key =
      (event.renderOf? key).or (a.lastRender? key) := by
  simp only [lastRender?, after, List.findSome?_cons]
  cases event.renderOf? key <;> rfl

/-! ## The invariant -/

/-- The cache is sound with the masks of the latest renders, and each render
under way has its own key, which is in flight with the slot to be filled. -/
structure Sound (a : Activity) : Prop where
  cache : a.cache.Sound fun key mask => a.lastRender? key = some mask
  stack_nodup : (a.stack.map Prod.fst).Nodup
  inFlight : ∀ entry ∈ a.stack, entry ∈ a.cache.inFlight

/-- A new cache is sound. -/
theorem sound_start (capacity : Nat) : (start capacity).Sound where
  cache := Cache.sound_create _ capacity
  stack_nodup := List.nodup_nil
  inFlight _ member := absurd member List.not_mem_nil

variable {a b : Activity} {key : CacheKey} {slot : Slot} {mask : Mask}

/-- A move that renders nothing keeps an activity sound when it keeps the cache
sound and the stack in flight. -/
theorem sound_after {event : CacheEvent} {cache : Cache}
    {stack : List (CacheKey × Slot)}
    (quiet : ∀ key, event.renderOf? key = none)
    (soundCache : cache.Sound fun key mask => a.lastRender? key = some mask)
    (nodup : (stack.map Prod.fst).Nodup)
    (inFlight : ∀ entry ∈ stack, entry ∈ cache.inFlight) :
    (a.after event cache stack).Sound where
  cache := soundCache.mono fun key mask isLast => by
    rw [lastRender?_after, quiet, Option.none_or]
    exact isLast
  stack_nodup := nodup
  inFlight := inFlight

/-- Beginning to render a key that is not being rendered keeps an activity
sound. -/
theorem Sound.enter (sound : a.Sound) (free : a.isRendering key = false)
    (notReady : a.cache.finished? key = none) : (a.enter key).Sound := by
  obtain ⟨reserved, _, subset, _⟩ := sound.cache.reserve key
  have absent : key ∉ a.stack.map Prod.fst := by
    simpa [isRendering] using free
  refine sound_after (fun _ => rfl) reserved
    (List.nodup_cons.mpr ⟨absent, sound.stack_nodup⟩) ?_
  intro entry member
  rcases List.mem_cons.mp member with rfl | member
  · exact sound.cache.reserve_mem_inFlight notReady
  · exact subset (sound.inFlight entry member)

/-- The return of the innermost render keeps an activity sound and makes the
mask ready under its key. -/
theorem Sound.finish (sound : a.Sound) {rest : List (CacheKey × Slot)}
    (top : a.stack = (key, slot) :: rest) (mask : Mask) :
    (a.after (.rendered key mask) (a.cache.complete key slot mask) rest).Sound ∧
      (a.cache.complete key slot mask).finished? key = some mask := by
  have nodup := sound.stack_nodup
  have inFlight := sound.inFlight
  rw [top] at nodup inFlight
  rw [List.map_cons, List.nodup_cons] at nodup
  let done := a.after (.rendered key mask) (a.cache.complete key slot mask) rest
  have isLast : ∀ other, done.lastRender? other =
      if key = other then some mask else a.lastRender? other := by
    intro other
    rw [lastRender?_after, CacheEvent.renderOf?]
    split <;> rfl
  obtain ⟨completed, ready, others⟩ := sound.cache.complete
    (fun other found => done.lastRender? other = some found)
    (inFlight _ List.mem_cons_self) (by rw [isLast, if_pos rfl])
    (fun other found different old => by
      rw [isLast, if_neg (Ne.symm different)]
      exact old)
  refine ⟨⟨completed, nodup.2, ?_⟩, ready⟩
  intro entry member
  refine others entry (inFlight entry (List.mem_cons_of_mem _ member)) ?_
  intro equal
  have keyMem : entry.1 ∈ rest.map Prod.fst := List.mem_map_of_mem member
  exact nodup.1 (equal ▸ keyMem)

/-- A request for a key that is not being rendered is answered at once when the
key has a mask ready, and begins to render otherwise. -/
theorem Sound.step_request (sound : a.Sound) (free : a.isRendering key = false) :
    a.step (.request key) =
      match a.cache.finished? key with
      | some mask =>
          some (a.after (.answered key mask) (a.cache.reserve key).2.countHit
            a.stack)
      | none => some (a.enter key) := by
  obtain ⟨_, _, _, filled⟩ := sound.cache.reserve key
  simp only [step, free, Bool.false_eq_true, if_false, filled]

/-- A move of a sound activity and the activity it leads to. -/
inductive Takes (a : Activity) : CacheMove → Activity → Prop
  | answered {key : CacheKey} {mask : Mask} (free : a.isRendering key = false)
      (ready : a.cache.finished? key = some mask) :
      Takes a (.request key)
        (a.after (.answered key mask) (a.cache.reserve key).2.countHit a.stack)
  | began {key : CacheKey} (free : a.isRendering key = false)
      (notReady : a.cache.finished? key = none) :
      Takes a (.request key) (a.enter key)
  | rendered {key : CacheKey} {slot : Slot} {rest : List (CacheKey × Slot)}
      (mask : Mask) (top : a.stack = (key, slot) :: rest) :
      Takes a (.finish mask)
        (a.after (.rendered key mask) (a.cache.complete key slot mask) rest)
  | failed {key : CacheKey} {slot : Slot} {rest : List (CacheKey × Slot)}
      (top : a.stack = (key, slot) :: rest) :
      Takes a .fail (a.after (.failed key) a.cache rest)
  | looked (key : CacheKey) :
      Takes a (.contains key)
        (a.after (.looked key (a.cache.contains key)) a.cache a.stack)
  | cleared : Takes a .clear (a.after .cleared a.cache.clear a.stack)

/-- A sound activity takes no other moves. -/
theorem Sound.takes (sound : a.Sound) {move : CacheMove}
    (moved : a.step move = some b) : a.Takes move b := by
  cases move with
  | request key =>
      cases free : a.isRendering key with
      | true => simp [Activity.step, free] at moved
      | false =>
          rw [sound.step_request free] at moved
          cases ready : a.cache.finished? key with
          | some mask =>
              rw [ready] at moved
              cases moved
              exact .answered free ready
          | none =>
              rw [ready] at moved
              cases moved
              exact .began free ready
  | finish mask =>
      cases top : a.stack with
      | nil => simp [Activity.step, top] at moved
      | cons entry rest =>
          simp only [Activity.step, top, Option.some.injEq] at moved
          subst b
          exact .rendered mask top
  | fail =>
      cases top : a.stack with
      | nil => simp [Activity.step, top] at moved
      | cons entry rest =>
          simp only [Activity.step, top, Option.some.injEq] at moved
          subst b
          exact .failed top
  | contains key =>
      cases moved
      exact .looked key
  | clear =>
      cases moved
      exact .cleared

/-- Every move keeps an activity sound. -/
theorem Sound.step (sound : a.Sound) {move : CacheMove}
    (moved : a.step move = some b) : b.Sound := by
  cases sound.takes moved with
  | @answered key mask free ready =>
      obtain ⟨reserved, _, subset, _⟩ := sound.cache.reserve key
      exact sound_after (fun _ => rfl) reserved.countHit sound.stack_nodup
        fun entry member => subset (sound.inFlight entry member)
  | began free notReady => exact sound.enter free notReady
  | rendered mask top => exact (sound.finish top mask).1
  | failed top =>
      have nodup := sound.stack_nodup
      have inFlight := sound.inFlight
      rw [top] at nodup inFlight
      exact sound_after (fun _ => rfl) sound.cache (List.nodup_cons.mp nodup).2
        fun entry member => inFlight entry (List.mem_cons_of_mem _ member)
  | looked key =>
      exact sound_after (fun _ => rfl) sound.cache sound.stack_nodup sound.inFlight
  | cleared =>
      exact sound_after (fun _ => rfl) sound.cache.clear sound.stack_nodup
        sound.inFlight

/-- Every sequence of moves keeps an activity sound. -/
theorem Sound.run (sound : a.Sound) {moves : List CacheMove}
    (moved : a.run moves = some b) : b.Sound := by
  induction moves generalizing a with
  | nil =>
      cases moved
      exact sound
  | cons move rest inductionHypothesis =>
      obtain ⟨middle, first, others⟩ := Option.bind_eq_some_iff.mp moved
      exact inductionHypothesis (sound.step first) others

/-! ## Requests with renders that use the cache -/

/-- What the render of a key does with the cache is a sequence of moves that
ends with the same renders under way. -/
def Nests {α : Type} (a : Activity) (key : CacheKey)
    (render : Cache → Checked (Mask × α) × Cache) : Prop :=
  ∃ moves last, (a.enter key).run moves = some last ∧
    last.stack = (a.enter key).stack ∧
    last.cache = (render (a.enter key).cache).2

/-- A whole request, with all that its render does, is a sequence of moves that
ends with the same renders under way. -/
theorem Sound.run_request {α : Type} (sound : a.Sound)
    (free : a.isRendering key = false)
    {render : Cache → Checked (Mask × α) × Cache}
    (nests : a.cache.finished? key = none → a.Nests key render) :
    ∃ moves last, a.run moves = some last ∧ last.stack = a.stack ∧
      last.cache = (a.cache.request key render).2 := by
  cases ready : a.cache.finished? key with
  | some mask =>
      refine ⟨[.request key], a.after (.answered key mask)
        (a.cache.reserve key).2.countHit a.stack, ?_, rfl, ?_⟩
      · simp only [Activity.run, sound.step_request free, ready]
        rfl
      · rw [sound.cache.request_of_ready ready]
        rfl
  | none =>
      obtain ⟨moves, last, isRun, sameStack, sameCache⟩ := nests ready
      have began : a.run (.request key :: moves) = some last := by
        simp only [Activity.run, sound.step_request free, ready]
        exact isRun
      change last.cache = (render (a.cache.reserve key).2).2 at sameCache
      rw [sound.cache.request_of_not_ready ready]
      rcases result : render (a.cache.reserve key).2 with ⟨outcome, left⟩
      rw [result] at sameCache
      cases outcome with
      | error fault =>
          refine ⟨.request key :: moves ++ [.fail], last.after (.failed key)
            last.cache a.stack, ?_, rfl, ?_⟩
          · rw [run_append, began]
            simp only [Activity.run, Option.bind_some, Activity.step, sameStack]
            rfl
          · simp only [Activity.after, sameCache]
      | ok value =>
          refine ⟨.request key :: moves ++ [.finish value.1], last.after
            (.rendered key value.1)
            (last.cache.complete key (a.cache.reserve key).1 value.1) a.stack,
            ?_, rfl, ?_⟩
          · rw [run_append, began]
            simp only [Activity.run, Option.bind_some, Activity.step, sameStack]
            rfl
          · simp only [Activity.after, sameCache]

/-- A request that is answered has its mask ready under its key. -/
theorem Sound.finished?_request {α : Type} (sound : a.Sound)
    (free : a.isRendering key = false)
    {render : Cache → Checked (Mask × α) × Cache}
    (nests : a.cache.finished? key = none → a.Nests key render)
    {report : Option α}
    (answered : (a.cache.request key render).1 = .ok (mask, report)) :
    (a.cache.request key render).2.finished? key = some mask := by
  cases ready : a.cache.finished? key with
  | some found =>
      obtain ⟨reserved, member, _, filled⟩ := sound.cache.reserve key
      rw [sound.cache.request_of_ready ready] at answered ⊢
      cases answered
      rw [reserved.countHit.finished?_eq member]
      exact filled.trans ready
  | none =>
      obtain ⟨moves, last, isRun, sameStack, sameCache⟩ := nests ready
      change last.cache = (render (a.cache.reserve key).2).2 at sameCache
      have soundLast := (sound.enter free ready).run isRun
      rw [sound.cache.request_of_not_ready ready] at answered ⊢
      rcases result : render (a.cache.reserve key).2 with ⟨outcome, left⟩
      rw [result] at answered sameCache
      cases outcome with
      | error fault => cases answered
      | ok value =>
          cases answered
          subst sameCache
          exact (soundLast.finish sameStack _).2

/-- Take any well-nested use of a new cache and any key that is not being
rendered then.  A request for it renders precisely when the key has no mask
ready in the cache, and then ends as its render does.  If it does not render, it
returns the mask that the latest render of the key returned.  Whenever it
returns a mask, the key is cached at that moment with this mask in its slot.
And all of it together is again a well-nested use of the cache. -/
theorem request_renders_unless_ready (capacity : Nat) (moves : List CacheMove)
    (reached : (start capacity).run moves = some a)
    (free : a.isRendering key = false) {α : Type}
    (render : Cache → Checked (Mask × α) × Cache)
    (nests : a.cache.finished? key = none → a.Nests key render) :
    ((∃ mask, (a.cache.request key render).1 = .ok (mask, none)) ↔
      ∃ mask, a.cache.finished? key = some mask) ∧
    (a.cache.finished? key = none →
      (a.cache.request key render).1 =
        (render (a.enter key).cache).1.map fun answer => (answer.1, some answer.2)) ∧
    (∀ mask, (a.cache.request key render).1 = .ok (mask, none) →
      a.lastRender? key = some mask) ∧
    (∀ mask report, (a.cache.request key render).1 = .ok (mask, report) →
      (a.cache.request key render).2.contains key = true ∧
      (a.cache.request key render).2.finished? key = some mask) ∧
    ∃ more last, (start capacity).run (moves ++ more) = some last ∧
      last.stack = a.stack ∧ last.cache = (a.cache.request key render).2 := by
  have sound := (sound_start capacity).run reached
  have unrendered : ∀ mask, (a.cache.request key render).1 = .ok (mask, none) →
      a.cache.finished? key = some mask := by
    intro mask answered
    cases ready : a.cache.finished? key with
    | some found =>
        rw [sound.cache.request_of_ready ready] at answered
        cases answered
        rfl
    | none =>
        rw [sound.cache.request_of_not_ready ready] at answered
        rcases result : render (a.cache.reserve key).2 with ⟨outcome, left⟩
        rw [result] at answered
        cases outcome <;> cases answered
  refine ⟨⟨?_, ?_⟩, ?_, ?_, ?_, ?_⟩
  · rintro ⟨mask, answered⟩
    exact ⟨mask, unrendered mask answered⟩
  · rintro ⟨mask, ready⟩
    exact ⟨mask, by rw [sound.cache.request_of_ready ready]⟩
  · intro notReady
    rw [sound.cache.request_of_not_ready notReady]
    change _ = (render (a.cache.reserve key).2).1.map _
    rcases render (a.cache.reserve key).2 with ⟨_ | answer, left⟩ <;> rfl
  · intro mask answered
    obtain ⟨reserved, member, _, filled⟩ := sound.cache.reserve key
    exact reserved.right member (filled.trans (unrendered mask answered))
  · intro mask report answered
    have ready := sound.finished?_request free nests answered
    exact ⟨Cache.contains_of_finished?_eq_some ready, ready⟩
  · obtain ⟨more, last, isRun, sameStack, sameCache⟩ :=
      sound.run_request free nests
    refine ⟨more, last, ?_, sameStack, sameCache⟩
    rw [run_append, reached]
    exact isRun

/-- A render that empties the cache before it returns one black pixel. -/
def renderAfterClear (c : Cache) : Checked (Mask × Unit) × Cache :=
  (.ok (⟨1, 1, 0, 1, #[255]⟩, ()), c.clear)

theorem nests_renderAfterClear (a : Activity) (key : CacheKey) :
    a.Nests key renderAfterClear :=
  ⟨[.clear], _, rfl, rfl, rfl⟩

/-- While a first key is being rendered, the render of a second one fails. -/
def failInside : List CacheMove := [.request ⟨1, 7, 16⟩, .request ⟨1, 8, 16⟩, .fail]

/-- The key whose render failed is requested again while the first is still being
rendered, and its new render drops both from the cache. -/
theorem request_renders_unless_ready_nested : ∃ a : Activity,
    (start 1).run failInside = some a ∧ a.isRendering ⟨1, 8, 16⟩ = false ∧
    a.Nests ⟨1, 8, 16⟩ renderAfterClear ∧
    (a.cache.request ⟨1, 8, 16⟩ renderAfterClear).2.finished? ⟨1, 8, 16⟩ =
      some ⟨1, 1, 0, 1, #[255]⟩ := by
  refine ⟨_, rfl, rfl, nests_renderAfterClear _ _, ?_⟩
  exact ((request_renders_unless_ready 1 failInside rfl rfl renderAfterClear
    fun _ => nests_renderAfterClear _ _).2.2.2.1 _ (some ()) rfl).2

end Activity

end Inkwell
