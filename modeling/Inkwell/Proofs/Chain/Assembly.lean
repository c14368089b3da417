import Inkwell.Proofs.Chain.Priority

/-!
# Putting chains together

Chains are begun, copied and extended in any order, and all of them take their keys from
one supply.  However often sources are pushed, a chain holds the first 65,535 of them and
takes no key for the others.  Until the supply has given out all its keys, two links with
one key are the same link, at the same place of one chain and of its copies.
-/

namespace Inkwell

/-- A chain, and all sources that were ever pushed on it or on the chain it is a copy of,
in order. -/
structure Draft where
  chain : Chain
  pushed : List (Role × Source)

/-- Chains that are put together, and the supply of their keys. -/
structure Assembly where
  drafts : List Draft
  keys : KeySupply

/-- A step in putting chains together.  Drafts are named by their places, and a step on a
draft that is not there does nothing. -/
inductive AssemblyStep where
  /-- Begin a chain without sources. -/
  | start
  /-- Copy a chain. -/
  | copy (draft : Nat)
  /-- Push a source on a chain. -/
  | push (draft : Nat) (role : Role) (source : Source)

namespace Chain

variable {c : Chain}

theorem push_of_room (room : c.size < 65535) (role : Role) (source : Source)
    (keys : KeySupply) :
    c.push role source keys =
      (⟨c.links.push ⟨role, keys.next, source⟩⟩, ⟨keys.next + 1⟩) :=
  if_pos room

theorem push_of_full (full : ¬ c.size < 65535) (role : Role) (source : Source)
    (keys : KeySupply) : c.push role source keys = (c, keys) :=
  if_neg full

end Chain

namespace Draft

/-- The chain holds as many of the pushed sources as it can, in order. -/
def Kept (draft : Draft) : Prop :=
  draft.chain.links.toList.map (fun link => (link.role, link.source)) =
    draft.pushed.take 65535

theorem Kept.size_eq {draft : Draft} (kept : draft.Kept) :
    draft.chain.size = min 65535 draft.pushed.length := by
  have lengths := congrArg List.length kept
  rw [List.length_map, List.length_take] at lengths
  exact lengths

theorem Kept.size_le {draft : Draft} (kept : draft.Kept) : draft.chain.size ≤ 65535 := by
  rw [kept.size_eq]
  exact Nat.min_le_left _ _

/-- Pushing a source keeps what the chain holds and adds the source if there is room. -/
theorem Kept.push {draft : Draft} (kept : draft.Kept) (role : Role) (source : Source)
    (keys : KeySupply) :
    Kept ⟨(draft.chain.push role source keys).1, draft.pushed ++ [(role, source)]⟩ := by
  have size_eq := kept.size_eq
  unfold Kept at kept ⊢
  by_cases room : draft.chain.size < 65535
  · have short : draft.pushed.length < 65535 := by
      omega
    rw [List.take_of_length_le (Nat.le_of_lt short)] at kept
    rw [Chain.push_of_room room, Array.toList_push, List.map_append, kept,
      List.take_of_length_le (by rw [List.length_append]; exact short)]
    rfl
  · have long : 65535 ≤ draft.pushed.length := by
      omega
    rw [Chain.push_of_full room, List.take_append_of_le_length long]
    exact kept

end Draft

namespace Assembly

/-- No chain was begun, and no key was given out. -/
def empty : Assembly := ⟨[], KeySupply.fresh⟩

/-- Perform a step. -/
def perform (a : Assembly) : AssemblyStep → Assembly
  | .start => { a with drafts := a.drafts ++ [⟨Chain.empty, []⟩] }
  | .copy draft => { a with drafts := a.drafts ++ a.drafts[draft]?.toList }
  | .push draft role source =>
      match a.drafts[draft]? with
      | none => a
      | some d =>
          let extended := d.chain.push role source a.keys
          ⟨a.drafts.set draft ⟨extended.1, d.pushed ++ [(role, source)]⟩, extended.2⟩

/-- Perform steps one after the other. -/
def run (a : Assembly) : List AssemblyStep → Assembly
  | [] => a
  | step :: rest => (a.perform step).run rest

/-- How many keys a step takes: one if it pushes a source on a chain with room for it. -/
def taken (a : Assembly) : AssemblyStep → Nat
  | .push draft _ _ =>
      match a.drafts[draft]? with
      | none => 0
      | some d => if d.chain.size < 65535 then 1 else 0
  | _ => 0

/-- How many keys steps take, one after the other. -/
def takenBy (a : Assembly) : List AssemblyStep → Nat
  | [] => 0
  | step :: rest => a.taken step + (a.perform step).takenBy rest

variable {a : Assembly}

/-! ## What chains hold -/

theorem kept_perform (kept : ∀ draft ∈ a.drafts, draft.Kept) (step : AssemblyStep) :
    ∀ draft ∈ (a.perform step).drafts, draft.Kept := by
  intro draft member
  cases step with
  | start =>
      rcases List.mem_append.mp member with old | new
      · exact kept draft old
      · rw [List.mem_singleton.mp new]
        rfl
  | copy source =>
      rcases List.mem_append.mp member with old | new
      · exact kept draft old
      · exact kept draft (List.mem_of_getElem? (Option.mem_toList.mp new))
  | push place role source =>
      simp only [perform] at member
      split at member
      · exact kept draft member
      · rename_i d found
        rcases List.mem_or_eq_of_mem_set member with old | rfl
        · exact kept draft old
        · exact (kept d (List.mem_of_getElem? found)).push role source a.keys

theorem kept_run (kept : ∀ draft ∈ a.drafts, draft.Kept) (steps : List AssemblyStep) :
    ∀ draft ∈ (a.run steps).drafts, draft.Kept := by
  induction steps generalizing a with
  | nil => exact kept
  | cons step rest inductionHypothesis => exact inductionHypothesis (kept_perform kept step)

/-! ## Keys -/

/-- Some chain has the link at the place. -/
def Holds (a : Assembly) (place : Nat) (link : Link) : Prop :=
  ∃ draft ∈ a.drafts, draft.chain.links[place]? = some link

/-- A step either takes no key and adds no link, or it takes the next key for one link. -/
theorem perform_cases (a : Assembly) (step : AssemblyStep) :
    (a.taken step = 0 ∧ (a.perform step).keys = a.keys ∧
      ∀ place link, (a.perform step).Holds place link → a.Holds place link) ∨
    (a.taken step = 1 ∧ (a.perform step).keys = ⟨a.keys.next + 1⟩ ∧
      ∃ last new, new.key = a.keys.next ∧ ∀ place link, (a.perform step).Holds place link →
        a.Holds place link ∨ (place = last ∧ link = new)) := by
  cases step with
  | start =>
      refine .inl ⟨rfl, rfl, ?_⟩
      rintro place link ⟨draft, member, isLink⟩
      rcases List.mem_append.mp member with old | new
      · exact ⟨draft, old, isLink⟩
      · rw [List.mem_singleton.mp new] at isLink
        cases isLink
  | copy source =>
      refine .inl ⟨rfl, rfl, ?_⟩
      rintro place link ⟨draft, member, isLink⟩
      rcases List.mem_append.mp member with old | new
      · exact ⟨draft, old, isLink⟩
      · exact ⟨draft, List.mem_of_getElem? (Option.mem_toList.mp new), isLink⟩
  | push draft role source =>
      cases found : a.drafts[draft]? with
      | none =>
          simp only [perform, taken, found]
          exact .inl ⟨trivial, trivial, fun _ _ holds => holds⟩
      | some d =>
          have present := List.mem_of_getElem? found
          simp only [perform, taken, found]
          by_cases room : d.chain.size < 65535
          · rw [Chain.push_of_room room]
            refine .inr ⟨if_pos room, rfl, d.chain.size, ⟨role, a.keys.next, source⟩, rfl, ?_⟩
            rintro place link ⟨other, member, isLink⟩
            rcases List.mem_or_eq_of_mem_set member with old | rfl
            · exact .inl ⟨other, old, isLink⟩
            · rw [Array.getElem?_push] at isLink
              split at isLink
              · rename_i isLast
                exact .inr ⟨isLast, (Option.some.inj isLink).symm⟩
              · exact .inl ⟨d, present, isLink⟩
          · rw [Chain.push_of_full room]
            refine .inl ⟨if_neg room, rfl, ?_⟩
            rintro place link ⟨other, member, isLink⟩
            rcases List.mem_or_eq_of_mem_set member with old | rfl
            · exact ⟨other, old, isLink⟩
            · exact ⟨d, present, isLink⟩

/-- The supply has given out `count` keys, each of them for one link. -/
structure Keyed (a : Assembly) (count : Nat) : Prop where
  next_eq : a.keys.next = UInt32.ofNat (count + 1)
  key_mem : ∀ place link, a.Holds place link → 0 < link.key.toNat ∧ link.key.toNat ≤ count
  unique : ∀ place other link same, a.Holds place link → a.Holds other same →
    link.key = same.key → place = other ∧ link = same

theorem keyed_empty : empty.Keyed 0 where
  next_eq := rfl
  key_mem := by
    rintro place link ⟨draft, member, _⟩
    cases member
  unique := by
    rintro place other link same ⟨draft, member, _⟩
    cases member

/-- A step keeps the account of the keys, unless there are none left. -/
theorem Keyed.perform {count : Nat} (keyed : a.Keyed count) (step : AssemblyStep)
    (left : count + a.taken step < 4294967296) :
    (a.perform step).Keyed (count + a.taken step) := by
  rcases a.perform_cases step with ⟨none, keys, holds⟩ | ⟨one, keys, last, new, isNext, holds⟩
  · rw [none, Nat.add_zero]
    exact ⟨keys ▸ keyed.next_eq,
      fun place link held => keyed.key_mem place link (holds place link held),
      fun place other link same held alsoHeld =>
        keyed.unique place other link same (holds place link held) (holds other same alsoHeld)⟩
  · rw [one] at left ⊢
    have newKey : new.key.toNat = count + 1 := by
      rw [isNext, keyed.next_eq, UInt32.toNat_ofNat_of_lt' left]
    -- No link from before has the new key.
    have fresh : ∀ place link, a.Holds place link → link.key ≠ new.key := by
      intro place link held sameKey
      have used := (keyed.key_mem place link held).2
      rw [sameKey, newKey] at used
      omega
    constructor
    case next_eq =>
      rw [keys, keyed.next_eq]
      exact (UInt32.ofNat_add (count + 1) 1).symm
    case key_mem =>
      intro place link held
      rcases holds place link held with old | ⟨_, rfl⟩
      · have used := keyed.key_mem place link old
        omega
      · omega
    case unique =>
      intro place other link same held alsoHeld sameKey
      rcases holds place link held with old | ⟨rfl, rfl⟩
      · rcases holds other same alsoHeld with alsoOld | ⟨rfl, rfl⟩
        · exact keyed.unique place other link same old alsoOld sameKey
        · exact absurd sameKey (fresh place link old)
      · rcases holds other same alsoHeld with alsoOld | ⟨rfl, rfl⟩
        · exact absurd sameKey.symm (fresh other same alsoOld)
        · exact ⟨rfl, rfl⟩

theorem Keyed.run {count : Nat} (keyed : a.Keyed count) {steps : List AssemblyStep}
    (left : count + a.takenBy steps < 4294967296) :
    (a.run steps).Keyed (count + a.takenBy steps) := by
  induction steps generalizing a count with
  | nil => exact keyed
  | cons step rest inductionHypothesis =>
      rw [takenBy, ← Nat.add_assoc] at left ⊢
      exact inductionHypothesis (keyed.perform step (by omega)) left

/-! ## Chains that were put together -/

/-- Put chains together by any steps, and take one of them.  It holds the first 65,535 of
the sources that were pushed on it; when it is full, pushing changes nothing and takes no
key.  A cluster that some source knows is resolved, whenever the advance of its glyph is
returned, to the glyph that the first such source has for it: with the place and the key of
this source, which is not the place of the missing glyph, so that the glyph is drawn by
this source.  A cluster that none knows is resolved to the missing glyph with the key of
the first source, and the box is drawn.  As long as fewer than 2^32 keys were taken, two
links of any of the chains have the same key only if they are one link. -/
theorem first_source_wins (steps : List AssemblyStep) :
    (∀ draft ∈ (empty.run steps).drafts,
      (draft.chain.size ≤ 65535 ∧
        draft.chain.links.toList.map (fun link => (link.role, link.source)) =
          draft.pushed.take 65535 ∧
        (draft.chain.size = 65535 → ∀ role source keys,
          draft.chain.push role source keys = (draft.chain, keys))) ∧
      ∀ cluster size,
        ((∃ link ∈ draft.chain.links, link.source.glyphFor? cluster ≠ none) →
          ∃ place link glyph, draft.chain.Provides cluster place link glyph ∧
            ∀ ref, (draft.chain.resolve cluster size = .ok ref ↔
                Chain.Refers ref place link glyph size) ∧
              (draft.chain.resolve cluster size = .ok ref →
                ref.isMissing = false ∧ draft.chain.link? ref.source = some link ∧
                draft.chain.rasterize ref size = (do
                  match ← link.source.rasterize glyph size with
                  | .ok mask => pure mask
                  | .error _ => draft.chain.missingBox size))) ∧
        ((∀ link ∈ draft.chain.links, link.source.glyphFor? cluster = none) →
          ∃ ref, draft.chain.resolve cluster size = .ok ref ∧ ref.isMissing = true ∧
            ref.key = (draft.chain.links[0]?.map (·.key)).getD 0 ∧
            MissingBox.advance size = .ok ref.advance ∧
            draft.chain.rasterize ref size = (do
              let metrics ← draft.chain.lineMetrics size
              MissingBox.mask size metrics))) ∧
    (empty.takenBy steps < 4294967296 →
      ∀ place other link same, (empty.run steps).Holds place link →
        (empty.run steps).Holds other same →
        link.key ≠ GlyphRef.unsourcedKey ∧
          (link.key = same.key → place = other ∧ link = same)) := by
  constructor
  · intro draft member
    have kept := kept_run (fun _ absent => absurd absent List.not_mem_nil) steps draft member
    have short := kept.size_le
    refine ⟨⟨short, kept, fun full => Chain.push_of_full (by omega)⟩, fun cluster size =>
      ⟨fun known => ?_, fun unknown => Chain.resolve_of_unknown short unknown size⟩⟩
    obtain ⟨place, link, glyph, provides⟩ := Chain.exists_provides known
    have resolves_iff := Chain.resolve_of_provides short provides size
    refine ⟨place, link, glyph, provides, fun ref => ⟨resolves_iff ref, fun resolves => ?_⟩⟩
    exact ((resolves_iff ref).mp resolves).rasterize_eq short provides.isLink
  · intro left place other link same held alsoHeld
    have keyed := keyed_empty.run (by omega : 0 + empty.takenBy steps < 4294967296)
    refine ⟨fun unsourced => ?_, keyed.unique place other link same held alsoHeld⟩
    have positive := (keyed.key_mem place link held).1
    rw [unsourced] at positive
    exact absurd positive (by decide)

/-- A source that knows no cluster. -/
def blindSource : Source :=
  ⟨"blind", fun _ => none, fun _ _ => .ok 0, fun size => .ok (LineMetrics.estimate size),
    fun _ _ => .ok (.ok Mask.empty)⟩

/-- A source that has the same glyph for every cluster. -/
def uniformSource : Source :=
  ⟨"uniform", fun _ => some 7, fun _ _ => .ok 4, fun size => .ok (LineMetrics.estimate size),
    fun _ _ => .ok (.ok Mask.empty)⟩

/-- A source that has a glyph for every cluster, after one that has none. -/
def uniformChain : Chain := ⟨#[⟨.base, 1, blindSource⟩, ⟨.overlay, 2, uniformSource⟩]⟩

theorem resolve_uniformChain (cluster : Cluster) (size : UInt16) :
    uniformChain.resolve cluster size = .ok ⟨1, 2, 7, 4⟩ := by
  have place : uniformChain.placeOf? cluster = some 1 := by
    simp [Chain.placeOf?, uniformChain, blindSource, uniformSource, List.findIdx?_cons]
  rw [Chain.resolve, Chain.find?, place]
  rfl

/-- Two chains that begin with a source that knows nothing.  Only one of them has another
source. -/
def twoChains : List AssemblyStep :=
  [.start, .push 0 .base blindSource, .copy 0, .push 0 .overlay uniformSource]

/-- The first chain has a glyph for a letter, from its second source, and the second has
none. -/
theorem first_source_wins_twoChains :
    (∃ draft ∈ (empty.run twoChains).drafts, ∃ place link glyph,
      draft.chain.Provides (Cluster.single 'a' 0) place link glyph ∧
      draft.chain.resolve (Cluster.single 'a' 0) 8 = .ok ⟨1, 2, 7, 4⟩ ∧
      Chain.Refers ⟨1, 2, 7, 4⟩ place link glyph 8 ∧
      draft.chain.link? 1 = some link) ∧
    (∃ draft ∈ (empty.run twoChains).drafts, ∃ ref,
      draft.chain.resolve (Cluster.single 'a' 0) 8 = .ok ref ∧ ref.isMissing = true ∧
      ref.key = 1) ∧
    empty.takenBy twoChains = 2 ∧
    ∀ place other link same, (empty.run twoChains).Holds place link →
      (empty.run twoChains).Holds other same → link.key = same.key →
      place = other ∧ link = same := by
  obtain ⟨chains, keys⟩ := first_source_wins twoChains
  have few : empty.takenBy twoChains < 4294967296 := by decide
  refine ⟨⟨_, .head _, ?_⟩, ⟨_, .tail _ (.head _), ?_⟩, rfl, fun place other link same held
    alsoHeld => (keys few place other link same held alsoHeld).2⟩
  · obtain ⟨place, link, glyph, provides, resolves⟩ :=
      ((chains _ (.head _)).2 (Cluster.single 'a' 0) 8).1 ⟨_, Array.mem_push_self, by decide⟩
    obtain ⟨resolves_iff, draws⟩ := resolves ⟨1, 2, 7, 4⟩
    have resolved := resolve_uniformChain (Cluster.single 'a' 0) 8
    exact ⟨place, link, glyph, provides, resolved, resolves_iff.mp resolved,
      (draws resolved).2.1⟩
  · obtain ⟨ref, resolves, missing, key, _⟩ :=
      ((chains _ (.tail _ (.head _))).2 (Cluster.single 'a' 0) 8).2 (by
        intro link member
        cases Array.mem_singleton.mp member
        rfl)
    exact ⟨ref, resolves, missing, key⟩

end Assembly

end Inkwell
