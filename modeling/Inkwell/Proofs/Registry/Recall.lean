import Inkwell.Registry

/-!
# What a registry recalls

A registry looks up a name once and then recalls what it found.  As long as the same would
be found again, this makes no difference: a look-up answers as one would that remembers
nothing.  A face that was handed out is handed out again, even if a better one has been
added since.  Look-ups of other names make no difference either, unless two of them are
remembered under one name: a generic family, and a family that happens to be called as the
generic one is remembered.  All this holds over any database that finds faces among those it
knows and leaves the data of a face as it is.
-/

namespace Inkwell

/-- A call to a registry. -/
inductive RegistryCall (Faces : Type) where
  /-- Add faces. -/
  | add (addition : Faces → Faces)
  /-- Set the threshold of faces that are loaded from now on. -/
  | setThreshold (threshold : UInt8)
  /-- Load a family or a generic one. -/
  | load (target : LoadTarget)
  /-- Load the first of some families that can be loaded. -/
  | loadFirst (names : List String)

/-- What was looked up, and the registry that was asked. -/
structure Inquiry (Faces : Type) where
  target : LoadTarget
  asked : Registry Faces

/-- The face with the threshold that holds when nothing else is said. -/
def Face.plain (f : Face) : Face := f.withThreshold defaultThreshold

namespace Registry

variable {Faces : Type} {db : FontDatabase Faces} {r s : Registry Faces}
variable {target : LoadTarget} {log : List (Inquiry Faces)}

/-- The inquiries in the search for the first of some families that can be loaded. -/
def tried (db : FontDatabase Faces) : List String → Registry Faces → List (Inquiry Faces)
  | [], _ => []
  | name :: rest, r =>
      ⟨.family name, r⟩ ::
        match r.load db (.family name) with
        | (.ok (.error _), r) => tried db rest r
        | _ => []

/-- The registry after a call. -/
def after (db : FontDatabase Faces) (r : Registry Faces) :
    RegistryCall Faces → Registry Faces
  | .add addition => { r with faces := addition r.faces }
  | .setThreshold threshold => { r with threshold := threshold }
  | .load target => (r.load db target).2
  | .loadFirst names => (loadFirst db names r).2

/-- The inquiries in a call. -/
def inquiries (db : FontDatabase Faces) (r : Registry Faces) :
    RegistryCall Faces → List (Inquiry Faces)
  | .add _ => []
  | .setThreshold _ => []
  | .load target => [⟨target, r⟩]
  | .loadFirst names => tried db names r

/-- The call that adds the faces of a font in memory. -/
def addingBytes (bytes : ByteArray) : RegistryCall (List KnownFace) :=
  .add (· ++ facesIn (.memory bytes) bytes)

/-- The call that adds the fonts in a directory. -/
def addingDirectory (files : Files) (path : String) : RegistryCall (List KnownFace) :=
  .add (· ++ facesBelow files path)

theorem after_addingBytes (db : FontDatabase (List KnownFace)) (r : Registry)
    (bytes : ByteArray) : r.after db (addingBytes bytes) = r.addBytes bytes :=
  rfl

theorem after_addingDirectory (db : FontDatabase (List KnownFace)) (r : Registry)
    (files : Files) (path : String) :
    r.after db (addingDirectory files path) = r.addDirectory files path :=
  rfl

/-- The registry after calls, one after the other. -/
def run (db : FontDatabase Faces) (r : Registry Faces) :
    List (RegistryCall Faces) → Registry Faces
  | [] => r
  | call :: rest => (r.after db call).run db rest

/-- The inquiries in calls, one after the other. -/
def history (db : FontDatabase Faces) (r : Registry Faces) :
    List (RegistryCall Faces) → List (Inquiry Faces)
  | [] => []
  | call :: rest => r.inquiries db call ++ (r.after db call).history db rest

/-- Calls have led from a registry that was not asked for anything to this one, and these
are all inquiries in them. -/
def Reached (db : FontDatabase Faces) (r : Registry Faces)
    (log : List (Inquiry Faces)) : Prop :=
  ∃ (start : Registry Faces) (calls : List (RegistryCall Faces)),
    start.memo = [] ∧ start.run db calls = r ∧ start.history db calls = log

/-- What a look-up finds that remembers nothing, whatever its threshold. -/
def found (r : Registry Faces) (db : FontDatabase Faces) (target : LoadTarget) :
    Checked (Option Face) := do
  let answer ← r.search db target
  pure (answer.toOption.map Face.plain)

/-- What the registry hands out, whatever its threshold. -/
def handed (r : Registry Faces) (db : FontDatabase Faces) (target : LoadTarget) :
    Checked (Option Face) := do
  let answer ← (r.load db target).1
  pure (answer.toOption.map fun loaded => loaded.face.plain)

/-- A look-up that remembers nothing finds the face, which carries the threshold that the
registry gives to faces that are loaded now. -/
def Finds (r : Registry Faces) (db : FontDatabase Faces) (target : LoadTarget)
    (loaded : Loaded) : Prop :=
  ∃ face, r.search db target = .ok (.ok face) ∧
    loaded.face = face.withThreshold r.threshold

/-- Nothing else that was looked up is remembered under the same name. -/
def KeyedApart (target : LoadTarget) (log : List (Inquiry Faces)) : Prop :=
  ∀ inquiry ∈ log, memoKey inquiry.target = memoKey target → inquiry.target = target

/-- The faces that were known whenever the target was looked up. -/
def met (target : LoadTarget) (log : List (Inquiry Faces)) : List Faces :=
  (log.filter (·.target = target)).map (·.asked.faces)

/-- A registry that knows faces and was not asked for any. -/
def ofFaces (faces : Faces) : Registry Faces :=
  ⟨faces, [], Config.defaultThreshold, 0⟩

/-- What the first look-up of the target found that was not abandoned, if there was one. -/
def recalled (db : FontDatabase Faces) (target : LoadTarget) (log : List (Inquiry Faces)) :
    Option (Option Face) :=
  (met target log).findSome? fun faces => ((ofFaces faces).found db target).toOption

/-! ## One look-up -/

/-- What is found depends on the known faces only. -/
theorem found_congr (same : r.faces = s.faces) (db : FontDatabase Faces) (target : LoadTarget) :
    r.found db target = s.found db target := by
  rw [found, found, search, search, same]

theorem found_ofFaces (r : Registry Faces) (db : FontDatabase Faces) (target : LoadTarget) :
    (ofFaces r.faces).found db target = r.found db target :=
  found_congr rfl db target

/-- What a look-up remembers: its answer, unless it is abandoned. -/
def remembers (r : Registry Faces) (db : FontDatabase Faces) (target : LoadTarget) :
    Option (Option Loaded) :=
  (r.load db target).1.toOption.map Except.toOption

/-- A look-up of a name that is remembered changes nothing and answers what is
remembered. -/
theorem load_of_remembered (db : FontDatabase Faces) {remembered : Option Loaded}
    (known : r.memo.lookup (memoKey target) = some remembered) :
    (r.load db target).2 = r ∧ r.remembers db target = some remembered := by
  unfold remembers load
  rw [known]
  cases remembered with
  | none => exact ⟨rfl, rfl⟩
  | some loaded => exact ⟨rfl, rfl⟩

/-- A look-up of a name that is not remembered finds what is there, and remembers it. -/
theorem load_of_unknown (db : FontDatabase Faces)
    (unknown : r.memo.lookup (memoKey target) = none) :
    r.handed db target = r.found db target ∧
      (r.load db target).2.memo =
        ((r.remembers db target).map fun remembered =>
          (memoKey target, remembered)).toList ++ r.memo := by
  unfold handed found remembers load
  rw [unknown]
  dsimp only
  cases r.search db target with
  | error fault => exact ⟨rfl, rfl⟩
  | ok answer =>
      cases answer with
      | error e => exact ⟨rfl, rfl⟩
      | ok face => exact ⟨rfl, rfl⟩

/-- A face that is loaded and was not remembered is what is found, with the threshold that
is set now. -/
theorem finds_of_unknown (unknown : r.memo.lookup (memoKey target) = none) {loaded : Loaded}
    (handedOut : (r.load db target).1 = .ok (.ok loaded)) : r.Finds db target loaded := by
  unfold load at handedOut
  rw [unknown] at handedOut
  dsimp only at handedOut
  cases searched : r.search db target with
  | error fault =>
      rw [searched] at handedOut
      cases handedOut
  | ok answer =>
      rw [searched] at handedOut
      cases answer with
      | error e => cases handedOut
      | ok face =>
          cases handedOut
          exact ⟨face, searched, rfl⟩

/-- A look-up adds at most its own answer to what is remembered, and nothing that is
remembered is forgotten. -/
theorem lookup_memo_load (r : Registry Faces) (db : FontDatabase Faces)
    (target : LoadTarget) (key : String) :
    (r.load db target).2.memo.lookup key =
      (r.memo.lookup key).or
        (if key = memoKey target then r.remembers db target else none) := by
  cases known : r.memo.lookup (memoKey target) with
  | some remembered =>
      rw [(load_of_remembered db known).1]
      split
      · rename_i same
        rw [same, known, Option.some_or]
      · rw [Option.or_none]
  | none =>
      rw [(load_of_unknown db known).2]
      cases r.remembers db target with
      | none =>
          rw [ite_self, Option.or_none]
          rfl
      | some remembered =>
          show ((memoKey target, remembered) :: r.memo).lookup key = _
          rw [List.lookup_cons]
          by_cases same : key = memoKey target
          · rw [same, known, if_pos rfl, beq_self_eq_true]
            rfl
          · rw [if_neg same, Option.or_none, beq_false_of_ne same]

/-- The answer of a look-up is remembered from then on. -/
theorem lookup_memo_load_self {answer : Except Error Loaded}
    (answered : (r.load db target).1 = .ok answer) :
    (r.load db target).2.memo.lookup (memoKey target) = some answer.toOption := by
  have isAnswer : r.remembers db target = some answer.toOption := by
    rw [remembers, answered]
    rfl
  rw [lookup_memo_load, if_pos rfl]
  cases known : r.memo.lookup (memoKey target) with
  | none => rw [Option.none_or, isAnswer]
  | some remembered =>
      rw [Option.some_or, ← isAnswer, (load_of_remembered db known).2]

/-- What is handed out is what is remembered, and else what is found. -/
theorem handed_eq (r : Registry Faces) (db : FontDatabase Faces) (target : LoadTarget) :
    r.handed db target =
      match r.memo.lookup (memoKey target) with
      | some remembered => .ok (remembered.map fun loaded => loaded.face.plain)
      | none => r.found db target := by
  cases known : r.memo.lookup (memoKey target) with
  | none => exact (load_of_unknown db known).1
  | some remembered =>
      rw [handed, load, known]
      cases remembered with
      | none => rfl
      | some loaded => rfl

theorem faces_load (r : Registry Faces) (db : FontDatabase Faces) (target : LoadTarget) :
    (r.load db target).2.faces = r.faces := by
  unfold load
  split
  · rfl
  · rfl
  · split <;> rfl

/-! ## Call after call -/

/-- The registry remembers what the inquiries found: of each target the first answer that
it got, with the very face that was handed out. -/
structure Recalls (db : FontDatabase Faces) (r : Registry Faces)
    (log : List (Inquiry Faces)) : Prop where
  memo_eq : ∀ target, KeyedApart target log →
    (r.memo.lookup (memoKey target)).map (Option.map fun loaded => loaded.face.plain) =
      recalled db target log
  kept : ∀ inquiry ∈ log, ∀ loaded,
    (inquiry.asked.load db inquiry.target).1 = .ok (.ok loaded) →
      r.memo.lookup (memoKey inquiry.target) = some (some loaded)
  origin : ∀ target, KeyedApart target log → ∀ loaded,
    r.memo.lookup (memoKey target) = some (some loaded) →
      ∃ inquiry ∈ log, inquiry.target = target ∧
        (inquiry.asked.load db target).1 = .ok (.ok loaded) ∧
        inquiry.asked.Finds db target loaded

theorem recalls_nil (unasked : r.memo = []) : Recalls db r [] where
  memo_eq := by
    intro target _
    rw [unasked]
    rfl
  kept := by
    intro inquiry absent
    cases absent
  origin := by
    intro target _ loaded known
    rw [unasked] at known
    cases known

theorem Recalls.congr (recalls : Recalls db r log) (same : s.memo = r.memo) :
    Recalls db s log where
  memo_eq target apart := by
    rw [same]
    exact recalls.memo_eq target apart
  kept inquiry member loaded handedOut := by
    rw [same]
    exact recalls.kept inquiry member loaded handedOut
  origin target apart loaded known := by
    rw [same] at known
    exact recalls.origin target apart loaded known

theorem mem_met {faces : Faces} :
    faces ∈ met target log ↔
      ∃ inquiry ∈ log, inquiry.target = target ∧ inquiry.asked.faces = faces := by
  simp [met, and_assoc]

theorem recalled_concat (db : FontDatabase Faces) (target : LoadTarget) (log : List (Inquiry Faces))
    (inquiry : Inquiry Faces) :
    recalled db target (log ++ [inquiry]) =
      (recalled db target log).or
        (if inquiry.target = target then (inquiry.asked.found db target).toOption
          else none) := by
  rw [recalled, met, List.filter_append, List.map_append, List.findSome?_append]
  congr 1
  by_cases same : inquiry.target = target
  · simp [same, found_ofFaces]
  · simp [same]

theorem KeyedApart.of_concat {inquiry : Inquiry Faces}
    (apart : KeyedApart target (log ++ [inquiry])) : KeyedApart target log :=
  fun other member => apart other (List.mem_append_left _ member)

/-- Two targets that are remembered under one name are the same, if the name of one is kept
apart. -/
theorem KeyedApart.memoKey_eq_iff {other : LoadTarget}
    (apart : KeyedApart other (log ++ [⟨target, r⟩])) :
    memoKey other = memoKey target ↔ target = other :=
  ⟨fun same => apart ⟨target, r⟩ (List.mem_append_right _ List.mem_cons_self) same.symm,
    fun same => same ▸ rfl⟩

/-- A look-up is recalled with those before it. -/
theorem Recalls.load (recalls : Recalls db r log) (target : LoadTarget) :
    Recalls db (r.load db target).2 (log ++ [⟨target, r⟩]) where
  memo_eq other apart := by
    rw [lookup_memo_load, recalled_concat, ← recalls.memo_eq other apart.of_concat,
      Option.map_or]
    simp only [apart.memoKey_eq_iff]
    -- What is remembered already is not looked at again.
    cases known : r.memo.lookup (memoKey other) with
    | some remembered => rw [Option.map_some, Option.some_or, Option.some_or]
    | none =>
        congr 1
        split
        · rename_i same
          subst same
          rw [← (load_of_unknown db known).1, remembers, handed]
          cases (r.load db target).1 with
          | error fault => rfl
          | ok answer => rfl
        · rfl
  kept inquiry member loaded handedOut := by
    rcases List.mem_append.mp member with old | new
    · rw [lookup_memo_load, recalls.kept inquiry old loaded handedOut, Option.some_or]
    · rw [List.mem_singleton.mp new] at handedOut ⊢
      exact lookup_memo_load_self handedOut
  origin other apart loaded isRemembered := by
    cases known : r.memo.lookup (memoKey other) with
    | some remembered =>
        rw [lookup_memo_load, known, Option.some_or] at isRemembered
        obtain ⟨inquiry, member, origin⟩ :=
          recalls.origin other apart.of_concat loaded (known.trans isRemembered)
        exact ⟨inquiry, List.mem_append_left _ member, origin⟩
    | none =>
        -- It is this look-up that has found the face.
        rw [lookup_memo_load, known, Option.none_or] at isRemembered
        split at isRemembered
        · rename_i sameKey
          obtain rfl := apart.memoKey_eq_iff.mp sameKey
          obtain ⟨answer, answered, isLoaded⟩ := Option.map_eq_some_iff.mp isRemembered
          have handedOut : (r.load db target).1 = .ok (.ok loaded) := by
            cases loads : (r.load db target).1 with
            | error fault =>
                rw [loads] at answered
                cases answered
            | ok actual =>
                rw [loads] at answered
                cases answered
                cases answer with
                | error e => cases isLoaded
                | ok face =>
                    cases isLoaded
                    rfl
          exact ⟨⟨target, r⟩, List.mem_append_right _ List.mem_cons_self, rfl, handedOut,
            finds_of_unknown known handedOut⟩
        · cases isRemembered

theorem Recalls.loadFirst (recalls : Recalls db r log) (names : List String) :
    Recalls db (loadFirst db names r).2 (log ++ tried db names r) := by
  induction names generalizing r log with
  | nil =>
      rw [tried, List.append_nil]
      exact recalls
  | cons name rest inductionHypothesis =>
      have first := recalls.load (.family name)
      rw [Registry.loadFirst, tried]
      split
      · rename_i loaded
        rw [loaded] at first ⊢
        exact first
      · rename_i loaded
        rw [loaded] at first ⊢
        exact first
      · rename_i loaded
        rw [loaded] at first ⊢
        have others := inductionHypothesis first
        rw [List.append_assoc] at others
        exact others

theorem Recalls.after (recalls : Recalls db r log) (call : RegistryCall Faces) :
    Recalls db (r.after db call) (log ++ r.inquiries db call) := by
  cases call with
  | load target => exact recalls.load target
  | loadFirst names => exact recalls.loadFirst names
  | add addition =>
      rw [inquiries, List.append_nil]
      exact recalls.congr rfl
  | setThreshold threshold =>
      rw [inquiries, List.append_nil]
      exact recalls.congr rfl

theorem Recalls.run (recalls : Recalls db r log) (calls : List (RegistryCall Faces)) :
    Recalls db (r.run db calls) (log ++ r.history db calls) := by
  induction calls generalizing r log with
  | nil =>
      rw [history, List.append_nil]
      exact recalls
  | cons call rest inductionHypothesis =>
      have others := inductionHypothesis (recalls.after call)
      rw [List.append_assoc] at others
      exact others

/-! ## What calls make of a look-up -/

/-- What is handed out is found now, or was found when the target was looked up before. -/
theorem Recalls.handed_cases (recalls : Recalls db r log) (apart : KeyedApart target log) :
    r.handed db target = r.found db target ∨
      ∃ inquiry ∈ log, inquiry.target = target ∧
        r.handed db target = inquiry.asked.found db target := by
  have memo_eq := recalls.memo_eq target apart
  rw [handed_eq]
  cases known : r.memo.lookup (memoKey target) with
  | none => exact .inl rfl
  | some remembered =>
      rw [known, Option.map_some] at memo_eq
      obtain ⟨faces, wasMet, wasFound⟩ := List.exists_of_findSome?_eq_some memo_eq.symm
      obtain ⟨inquiry, member, isTarget, rfl⟩ := mem_met.mp wasMet
      rw [found_ofFaces] at wasFound
      refine .inr ⟨inquiry, member, isTarget, ?_⟩
      cases answer : inquiry.asked.found db target with
      | error fault =>
          rw [answer] at wasFound
          cases wasFound
      | ok face =>
          rw [answer] at wasFound
          cases wasFound
          rfl

/-- A face that is handed out for a target is found now, or an earlier look-up of the
target has found it and handed it out; the threshold is the one that was set then. -/
theorem Recalls.finds_or (recalls : Recalls db r log) (apart : KeyedApart target log)
    {loaded : Loaded} (handedOut : (r.load db target).1 = .ok (.ok loaded)) :
    r.Finds db target loaded ∨
      ∃ inquiry ∈ log, inquiry.target = target ∧
        (inquiry.asked.load db target).1 = .ok (.ok loaded) ∧
        inquiry.asked.Finds db target loaded := by
  cases known : r.memo.lookup (memoKey target) with
  | none => exact .inl (finds_of_unknown known handedOut)
  | some remembered =>
      have isLoaded : remembered = some loaded := by
        have answered := (load_of_remembered db known).2
        rw [remembers, handedOut] at answered
        exact (Option.some.inj answered).symm
      exact .inr (recalls.origin target apart loaded (isLoaded ▸ known))

/-- A family with a face that can be read is found. -/
theorem found_of_has {name : String} (has : db.has r.faces name = true)
    (readable : ∀ id, db.query r.faces (.named name) = some id →
      ∃ face, db.read id = .ok (.ok face)) :
    ∃ face, r.found db (.family name) = .ok (some face) := by
  obtain ⟨id, isFound⟩ := Option.isSome_iff_exists.mp has
  obtain ⟨face, isFace⟩ := readable id isFound
  refine ⟨face.plain, ?_⟩
  have candidate : (candidates (.family name)).findSome? (db.query r.faces) = some id := by
    rw [candidates, List.findSome?_singleton, isFound]
  rw [found, search, candidate]
  dsimp only
  rw [isFace]
  rfl

theorem exists_loaded_of_handed {face : Face}
    (isHanded : r.handed db target = .ok (some face)) :
    ∃ loaded, (r.load db target).1 = .ok (.ok loaded) := by
  obtain ⟨answer, isAnswer, isFace⟩ := Checked.bind_eq_ok_iff.mp isHanded
  cases answer with
  | error e => cases isFace
  | ok loaded => exact ⟨loaded, isAnswer⟩

/-- What is handed out depends only on the known faces and on those that were known when
the target was looked up. -/
theorem Recalls.handed_congr {otherLog : List (Inquiry Faces)} (recalls : Recalls db r log)
    (otherRecalls : Recalls db s otherLog) (apart : KeyedApart target log)
    (otherApart : KeyedApart target otherLog) (faces : r.faces = s.faces)
    (sameMet : met target log = met target otherLog) :
    r.handed db target = s.handed db target := by
  have memo_eq := recalls.memo_eq target apart
  rw [recalled, sameMet, ← recalled, ← otherRecalls.memo_eq target otherApart] at memo_eq
  rw [handed_eq, handed_eq, found_congr faces]
  cases known : r.memo.lookup (memoKey target) with
  | none =>
      rw [known, Option.map_none] at memo_eq
      rw [Option.map_eq_none_iff.mp memo_eq.symm]
  | some remembered =>
      rw [known, Option.map_some] at memo_eq
      obtain ⟨other, isOther, same⟩ := Option.map_eq_some_iff.mp memo_eq.symm
      rw [isOther]
      exact congrArg Except.ok same.symm

/-- A family is remembered under its own name, which is not that of a generic family
unless it is called so. -/
theorem keyedApart_family {name : String} (ordinary : ∀ kind, name ≠ memoKey (.generic kind))
    (log : List (Inquiry Faces)) : KeyedApart (.family name) log := by
  intro inquiry _ sameKey
  cases isTarget : inquiry.target with
  | family other =>
      rw [isTarget] at sameKey
      exact congrArg LoadTarget.family sameKey
  | generic kind =>
      rw [isTarget] at sameKey
      exact absurd sameKey.symm (ordinary kind)

theorem Reached.recalls (reached : Reached db r log) : Recalls db r log := by
  obtain ⟨start, calls, unasked, rfl, rfl⟩ := reached
  exact (recalls_nil unasked).run calls

/-- Take a registry over any database after any calls, and a target that is not remembered
under the name of another one.  If every look-up of the target so far had found what is found
now, the registry hands out precisely that; so it has a face for every family that it knows
and can read.  A face that it hands out is what is found now, or what an earlier look-up of
the target has found and handed out, with the threshold that was set at that look-up.  A face
that was handed out for the target is handed out ever after.  Look-ups of anything else make
no difference: after any other calls that have led to the same faces, with the same faces at
the look-ups of the target, the same is handed out. -/
theorem look_ups_agree_while_answers_stay (db : FontDatabase Faces) (r : Registry Faces)
    (log : List (Inquiry Faces)) (reached : Reached db r log) (target : LoadTarget)
    (apart : KeyedApart target log) :
    ((∀ inquiry ∈ log, inquiry.target = target →
        inquiry.asked.found db target = r.found db target) →
      r.handed db target = r.found db target ∧
      ∀ name, target = .family name → db.has r.faces name = true →
        (∀ id, db.query r.faces (.named name) = some id →
          ∃ face, db.read id = .ok (.ok face)) →
        ∃ loaded, (r.load db target).1 = .ok (.ok loaded)) ∧
    (∀ loaded, (r.load db target).1 = .ok (.ok loaded) →
      r.Finds db target loaded ∨
      ∃ inquiry ∈ log, inquiry.target = target ∧
        (inquiry.asked.load db target).1 = .ok (.ok loaded) ∧
        inquiry.asked.Finds db target loaded) ∧
    (∀ inquiry ∈ log, inquiry.target = target →
      ∀ loaded, (inquiry.asked.load db target).1 = .ok (.ok loaded) →
        (r.load db target).1 = .ok (.ok loaded)) ∧
    (∀ s otherLog, Reached db s otherLog → KeyedApart target otherLog →
      r.faces = s.faces → met target log = met target otherLog →
      r.handed db target = s.handed db target) := by
  have recalls := reached.recalls
  refine ⟨fun stayed => ?_, fun loaded handedOut => recalls.finds_or apart handedOut, ?_, ?_⟩
  · have agrees : r.handed db target = r.found db target := by
      rcases recalls.handed_cases apart with now | ⟨inquiry, member, isTarget, before⟩
      · exact now
      · rw [before, stayed inquiry member isTarget]
    refine ⟨agrees, ?_⟩
    rintro name rfl has readable
    obtain ⟨face, isFound⟩ := found_of_has has readable
    exact exists_loaded_of_handed (agrees.trans isFound)
  · rintro inquiry member rfl loaded handedOut
    rw [load, recalls.kept inquiry member loaded handedOut]
    rfl
  · intro s otherLog otherReached otherApart faces sameMet
    exact recalls.handed_congr otherReached.recalls apart otherApart faces sameMet

/-! ## A family with two faces -/

/-- The entry of a table in the directory of a font. -/
def tableEntry (tag : String) (start length : UInt8) : List UInt8 :=
  tag.toUTF8.toList ++ [0, 0, 0, 0, 0, 0, 0, start, 0, 0, 0, length]

/-- The entry of an English name of one character in a name table. -/
def nameEntry (id : UInt8) : List UInt8 := [0, 3, 0, 1, 4, 9, 0, id, 0, 2, 0, 0]

/-- A font with one face in the family `A`, which leans if the slant is not zero. -/
def smallFont (units slant : UInt8) : ByteArray :=
  ⟨([0, 1, 0, 0, 0, 5, 0, 0, 0, 0, 0, 0] ++ tableEntry "head" 92 54 ++
    tableEntry "hhea" 146 36 ++ tableEntry "maxp" 182 6 ++ tableEntry "name" 188 32 ++
    tableEntry "post" 220 32 ++
    List.replicate 18 0 ++ [0, units] ++ List.replicate 34 0 ++ List.replicate 36 0 ++
    [0, 0, 80, 0, 0, 1] ++ [0, 0, 0, 2, 0, 30] ++ nameEntry 1 ++ nameEntry 6 ++ [0, 65] ++
    [0, 3, 0, 0, 0, slant, 0, 0] ++ List.replicate 24 0).toArray⟩

/-- No files. -/
def noFiles : Files := Files.ofList []

/-- The database of fonts that are all in memory. -/
def memoryFonts : FontDatabase (List KnownFace) := fonts noFiles

/-- Calls that look up a family with a leaning face. -/
def leaningCalls : List (RegistryCall (List KnownFace)) :=
  [addingBytes (smallFont 16 1), .setThreshold 200, .load (.family "A"), .setThreshold 100]

/-- The registry after these calls. -/
def leaning : Registry := empty.run memoryFonts leaningCalls

/-- The registry after an upright face is added to the family. -/
def straightened : Registry := leaning.addBytes (smallFont 32 0)

/-- The units of the em of a face, if there is one. -/
def emUnits (answer : Checked (Option Face)) : Option Nat :=
  (answer.toOption.join).map Face.unitsPerEm

/-- The leaning face is handed out again as it is found, with the threshold of the first
look-up. -/
theorem look_ups_agree_while_answers_stay_leaning :
    leaning.handed memoryFonts (.family "A") = leaning.found memoryFonts (.family "A") ∧
      emUnits (leaning.found memoryFonts (.family "A")) = some 16 ∧
      ((leaning.load memoryFonts (.family "A")).1.toOption.bind Except.toOption).map
        (·.face.threshold) = some 200 := by
  have reached : Reached memoryFonts leaning (empty.history memoryFonts leaningCalls) :=
    ⟨empty, leaningCalls, rfl, rfl, rfl⟩
  have apart : KeyedApart (.family "A") (empty.history memoryFonts leaningCalls) :=
    keyedApart_family (fun kind => by cases kind <;> decide) _
  refine ⟨((look_ups_agree_while_answers_stay memoryFonts leaning _ reached _ apart).1 ?_).1,
    by decide +kernel⟩
  intro inquiry member _
  have isOnly : inquiry =
      ⟨.family "A", { empty.addBytes (smallFont 16 1) with threshold := 200 }⟩ :=
    List.mem_singleton.mp member
  have stayed : inquiry.asked.faces = leaning.faces := by
    rw [isOnly]
    exact (faces_load _ memoryFonts (.family "A")).symm
  exact found_congr stayed memoryFonts _

/-- The leaning face is handed out again, though the upright one is found. -/
theorem handed_ne_found_straightened :
    emUnits (straightened.handed memoryFonts (.family "A")) = some 16 ∧
      emUnits (straightened.found memoryFonts (.family "A")) = some 32 ∧
      straightened.handed memoryFonts (.family "A") ≠
        straightened.found memoryFonts (.family "A") := by
  have units : emUnits (straightened.handed memoryFonts (.family "A")) = some 16 ∧
      emUnits (straightened.found memoryFonts (.family "A")) = some 32 := by
    decide +kernel
  refine ⟨units.1, units.2, fun same => ?_⟩
  have differ : some 16 = some 32 := by rw [← units.1, ← units.2, same]
  cases differ

end Registry

end Inkwell
