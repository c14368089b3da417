import Inkwell.Glyph.Sheet

/-!
# Which row art is accepted

Row art is read row by row: a row has to be as wide as the first one, and then each of its
characters has to stand for ink or for none.  Reading stops at the first row that is not
regular, and the error tells what is wrong with this row.  If all rows are regular, the
drawing has one byte for each character, row after row.
-/

namespace Inkwell

namespace Drawing

/-- The character stands for a pixel with or without ink. -/
def IsPixel (c : Char) : Prop := c = '#' ∨ c = '.' ∨ c = ' '

instance (c : Char) : Decidable (IsPixel c) := inferInstanceAs (Decidable (_ ∨ _))

/-- The row is as wide as it has to be, and all its characters stand for pixels. -/
def Regular (width : Nat) (row : List Char) : Prop :=
  row.length = width ∧ ∀ c ∈ row, IsPixel c

-- Only the characters of the row are tested, not all there are.
instance (width : Nat) (row : List Char) : Decidable (Regular width row) :=
  @instDecidableAnd _ _ _ (List.decidableBAll IsPixel row)

/-- What is wrong with the row at a place: its width, or else the first of its characters
that stands for no pixel. -/
inductive RowFault (width place : Nat) (row : List Char) : SheetError → Prop
  | width (wrong : row.length ≠ width) : RowFault width place row (.rowWidth place row.length width)
  | pixel {clean rest : List Char} {c : Char} (right : row.length = width)
      (split : row = clean ++ c :: rest) (pixels : ∀ p ∈ clean, IsPixel p)
      (bad : ¬ IsPixel c) : RowFault width place row (.badPixel c place)

/-- The error tells what is wrong with the first row that is not regular. -/
def FirstFault (width : Nat) (art : List (List Char)) (e : SheetError) : Prop :=
  ∃ before row after, art = before ++ row :: after ∧ (∀ r ∈ before, Regular width r) ∧
    RowFault width before.length row e

/-- The drawing shows the art: it has its extents, and one byte for each character, row
after row, which is 255 where there is ink. -/
structure Shows (d : Drawing) (art : List (List Char)) : Prop where
  width_eq : d.width.toNat = artWidth art
  height_eq : d.height.toNat = art.length
  size_eq : d.coverage.size = artWidth art * art.length
  pixel_eq : ∀ {x y : Nat} {row : List Char} {c : Char}, art[y]? = some row → row[x]? = some c →
    d.coverage[y * artWidth art + x]? = some (if c = '#' then 255 else 0)

/-- The byte of a character that stands for a pixel. -/
def ink (c : Char) : UInt8 := if c = '#' then 255 else 0

/-! ## One row -/

theorem inkOf?_of_isPixel {c : Char} (isPixel : IsPixel c) : inkOf? c = some (ink c) := by
  rcases isPixel with rfl | rfl | rfl <;> rfl

theorem inkOf?_of_not_isPixel {c : Char} (bad : ¬ IsPixel c) : inkOf? c = none := by
  unfold IsPixel at bad
  rw [inkOf?, if_neg (fun same => bad (.inl same)), if_neg (fun same => bad (.inr same))]

theorem readPixels_of_pixels {cs : List Char} (pixels : ∀ c ∈ cs, IsPixel c) (row : Nat) :
    readPixels row cs = .ok (cs.map ink) := by
  induction cs with
  | nil => rfl
  | cons c cs inductionHypothesis =>
      obtain ⟨isPixel, others⟩ := List.forall_mem_cons.mp pixels
      rw [readPixels, inkOf?_of_isPixel isPixel]
      dsimp only
      rw [inductionHypothesis others]
      rfl

theorem readPixels_of_bad {clean rest : List Char} {c : Char}
    (pixels : ∀ p ∈ clean, IsPixel p) (bad : ¬ IsPixel c) (row : Nat) :
    readPixels row (clean ++ c :: rest) = .error (.badPixel c row) := by
  induction clean with
  | nil => rw [List.nil_append, readPixels, inkOf?_of_not_isPixel bad]
  | cons p clean inductionHypothesis =>
      obtain ⟨isPixel, others⟩ := List.forall_mem_cons.mp pixels
      rw [List.cons_append, readPixels, inkOf?_of_isPixel isPixel]
      dsimp only
      rw [inductionHypothesis others]

theorem length_readPixels {cs : List Char} {row : Nat} {bytes : List UInt8}
    (read : readPixels row cs = .ok bytes) : bytes.length = cs.length := by
  induction cs generalizing bytes with
  | nil =>
      cases read
      rfl
  | cons c cs inductionHypothesis =>
      rw [readPixels] at read
      split at read
      · cases read
      · split at read
        · cases read
        · rename_i others
          cases read
          rw [List.length_cons, List.length_cons, inductionHypothesis others]

/-- A row that is not regular has a fault. -/
theorem exists_rowFault {width : Nat} {row : List Char} (irregular : ¬ Regular width row)
    (place : Nat) : ∃ e, RowFault width place row e := by
  by_cases right : row.length = width
  · cases found : row.find? fun c => ¬ IsPixel c with
    | none =>
        refine absurd ⟨right, fun c member => ?_⟩ irregular
        simpa using List.find?_eq_none.mp found c member
    | some c =>
        obtain ⟨bad, clean, rest, split, pixels⟩ := List.find?_eq_some_iff_append.mp found
        exact ⟨_, .pixel right split (fun p member => by simpa using pixels p member)
          (by simpa using bad)⟩
  · exact ⟨_, .width right⟩

/-! ## Row after row -/

/-- Reading a regular row adds its pixels to those before it. -/
theorem readRows_cons_of_regular {width : Nat} {cs : List Char} (regular : Regular width cs)
    (art : List (List Char)) (row : Nat) (before : Array UInt8) :
    readRows (UInt32.ofNat width) (cs :: art) row before =
      readRows (UInt32.ofNat width) art (row + 1) (before ++ (cs.map ink).toArray) := by
  rw [readRows, if_pos (congrArg UInt32.ofNat regular.1), readPixels_of_pixels regular.2]

/-- Reading ends at a row with a fault, if words can hold its width and the one that it has
to have. -/
theorem readRows_cons_of_rowFault {width row : Nat} {cs : List Char} {e : SheetError}
    (width_lt : width < 4294967296) (row_lt : cs.length < 4294967296)
    (fault : RowFault width row cs e) (art : List (List Char)) (before : Array UInt8) :
    readRows (UInt32.ofNat width) (cs :: art) row before = .error e := by
  cases fault with
  | width wrong =>
      have differ : UInt32.ofNat cs.length ≠ UInt32.ofNat width := by
        intro same
        apply wrong
        rw [← UInt32.toNat_ofNat_of_lt' row_lt, same, UInt32.toNat_ofNat_of_lt' width_lt]
      rw [readRows, if_neg differ, UInt32.toNat_ofNat_of_lt' width_lt]
  | pixel right split pixels bad =>
      subst split
      rw [readRows, if_pos (congrArg UInt32.ofNat right), readPixels_of_bad pixels bad]

theorem readRows_of_regular {width : Nat} {art : List (List Char)}
    (regular : ∀ row ∈ art, Regular width row) (row : Nat) (before : Array UInt8) :
    readRows (UInt32.ofNat width) art row before =
      .ok (before ++ (art.flatMap (·.map ink)).toArray) := by
  induction art generalizing row before with
  | nil => rw [List.flatMap_nil, Array.append_empty, readRows]
  | cons cs art inductionHypothesis =>
      obtain ⟨first, others⟩ := List.forall_mem_cons.mp regular
      rw [readRows_cons_of_regular first, inductionHypothesis others, List.flatMap_cons,
        ← List.append_toArray, Array.append_assoc]

theorem readRows_of_fault {width row : Nat} {regulars after : List (List Char)}
    {cs : List Char} {e : SheetError} (width_lt : width < 4294967296)
    (row_lt : cs.length < 4294967296) (regular : ∀ r ∈ regulars, Regular width r)
    (fault : RowFault width (row + regulars.length) cs e) (before : Array UInt8) :
    readRows (UInt32.ofNat width) (regulars ++ cs :: after) row before = .error e := by
  induction regulars generalizing row before with
  | nil => exact readRows_cons_of_rowFault width_lt row_lt fault after before
  | cons r regulars inductionHypothesis =>
      obtain ⟨first, others⟩ := List.forall_mem_cons.mp regular
      rw [List.length_cons, Nat.add_comm regulars.length, ← Nat.add_assoc] at fault
      rw [List.cons_append, readRows_cons_of_regular first]
      exact inductionHypothesis others fault _

/-- Rows that were read have at least as many pixels as they should have.  They have more if
a word cannot hold their width. -/
theorem le_size_of_readRows {width : UInt32} {art : List (List Char)} {row : Nat}
    {before bytes : Array UInt8} (read : readRows width art row before = .ok bytes) :
    before.size + width.toNat * art.length ≤ bytes.size := by
  induction art generalizing row before with
  | nil =>
      cases read
      exact Nat.le_refl _
  | cons cs art inductionHypothesis =>
      rw [readRows] at read
      split at read
      · rename_i sameWidth
        split at read
        · cases read
        · rename_i pixels isPixels
          have others := inductionHypothesis read
          have width_le : width.toNat ≤ cs.length := by
            rw [← sameWidth, UInt32.toNat_ofNat']
            exact Nat.mod_le _ _
          have count : pixels.toArray.size = cs.length := length_readPixels isPixels
          rw [Array.size_append, count] at others
          rw [List.length_cons, Nat.mul_succ]
          omega
      · cases read

/-- Art with a row that is not regular has a first fault. -/
theorem exists_firstFault {width : Nat} {art : List (List Char)}
    (irregular : ¬ ∀ row ∈ art, Regular width row) : ∃ e, FirstFault width art e := by
  cases found : art.find? fun row => ¬ Regular width row with
  | none =>
      refine absurd (fun row member => ?_) irregular
      simpa using List.find?_eq_none.mp found row member
  | some row =>
      obtain ⟨bad, before, after, split, regular⟩ := List.find?_eq_some_iff_append.mp found
      obtain ⟨e, fault⟩ := exists_rowFault (by simpa using bad) before.length
      exact ⟨e, before, row, after, split, fun r member => by simpa using regular r member, fault⟩

/-! ## The drawing -/

theorem length_flatMap_ink {width : Nat} {art : List (List Char)}
    (regular : ∀ row ∈ art, Regular width row) :
    (art.flatMap (·.map ink)).length = width * art.length := by
  induction art with
  | nil => rfl
  | cons row art inductionHypothesis =>
      obtain ⟨⟨right, _⟩, others⟩ := List.forall_mem_cons.mp regular
      rw [List.flatMap_cons, List.length_append, List.length_map, right,
        inductionHypothesis others, List.length_cons, Nat.mul_succ, Nat.add_comm]

/-- In rows of equal width, the place of a byte is that of its row and column. -/
theorem getElem?_flatMap_ink {width : Nat} {art : List (List Char)}
    (regular : ∀ row ∈ art, Regular width row) {x y : Nat} {row : List Char} {c : Char}
    (isRow : art[y]? = some row) (isPixel : row[x]? = some c) :
    (art.flatMap (·.map ink))[y * width + x]? = some (ink c) := by
  induction art generalizing y with
  | nil => cases isRow
  | cons first art inductionHypothesis =>
      obtain ⟨⟨right, _⟩, others⟩ := List.forall_mem_cons.mp regular
      rw [List.flatMap_cons]
      cases y with
      | zero =>
          cases isRow
          rw [Nat.zero_mul, Nat.zero_add, List.getElem?_append_left, List.getElem?_map, isPixel,
            Option.map_some]
          rw [List.length_map]
          exact List.getElem?_eq_some_iff.mp isPixel |>.1
      | succ y =>
          have inOthers := inductionHypothesis others isRow
          rw [List.getElem?_append_right, List.length_map, right, Nat.add_mul, Nat.one_mul,
            ← inOthers]
          · congr 1
            omega
          · rw [List.length_map, right, Nat.add_mul]
            omega

/-- The characters of rows of art. -/
def characters (rows : List String) : List (List Char) := rows.map String.toList

/-- A word can count the rows, another one the pixels of each row, and one all pixels. -/
structure Sized (rows : List String) : Prop where
  rows_lt : rows.length < 4294967296
  row_lt : ∀ row ∈ characters rows, row.length < 4294967296
  pixels_lt : artWidth (characters rows) * rows.length < 4294967296

theorem length_characters (rows : List String) : (characters rows).length = rows.length :=
  List.length_map _

/-- The width of art that can be counted fits a word: if there is no row, it is zero. -/
theorem Sized.width_lt {rows : List String} (sized : Sized rows) :
    artWidth (characters rows) < 4294967296 := by
  cases rows with
  | nil => exact Nat.zero_lt_succ _
  | cons row rows =>
      exact Nat.lt_of_le_of_lt (Nat.le_mul_of_pos_right _ (Nat.zero_lt_succ _)) sized.pixels_lt

variable {rows : List String}

/-- The drawing that row art becomes when its pixels have these bytes. -/
def inked (rows : List (List Char)) (advance : UInt16) (bytes : Array UInt8) : Drawing where
  width := UInt32.ofNat (artWidth rows)
  height := UInt32.ofNat rows.length
  bearingX := 0
  bearingY := Int16.ofInt (UInt32.ofNat rows.length).toNat
  advance := advance
  coverage := bytes

/-- Reading art returns if a word can count its pixels, as it has them in words.  There is
a drawing then if its rows can be read. -/
theorem ofRows_eq_ok_iff {advance : UInt16} {outcome : Except SheetError Drawing} :
    ofRows rows advance = .ok outcome ↔
      (UInt32.ofNat (artWidth (characters rows))).toNat *
        (UInt32.ofNat (characters rows).length).toNat < 4294967296 ∧
      outcome = (readRows (UInt32.ofNat (artWidth (characters rows))) (characters rows) 0
        #[]).map (inked (characters rows) advance) := by
  simp only [ofRows, characters, Checked.bind_eq_ok_iff, Word.exactUInt32_eq_ok_iff, pure,
    Except.pure, Except.ok.injEq]
  constructor
  · rintro ⟨area, isArea, rfl⟩
    exact ⟨isArea ▸ area.toNat_lt, rfl⟩
  · rintro ⟨area_lt, rfl⟩
    exact ⟨_, UInt32.toNat_ofNat_of_lt area_lt, rfl⟩

/-- A drawing only comes about when the rows were read. -/
theorem exists_readRows_of_ofRows {advance : UInt16} {d : Drawing}
    (isDrawing : ofRows rows advance = .ok (.ok d)) :
    (UInt32.ofNat (artWidth (characters rows))).toNat *
        (UInt32.ofNat (characters rows).length).toNat < 4294967296 ∧
      ∃ bytes, readRows (UInt32.ofNat (artWidth (characters rows))) (characters rows) 0 #[] =
        .ok bytes ∧ inked (characters rows) advance bytes = d := by
  obtain ⟨area_lt, outcome⟩ := ofRows_eq_ok_iff.mp isDrawing
  refine ⟨area_lt, ?_⟩
  cases read : readRows (UInt32.ofNat (artWidth (characters rows))) (characters rows) 0 #[] with
  | error e =>
      rw [read] at outcome
      cases outcome
  | ok bytes =>
      rw [read] at outcome
      cases outcome
      exact ⟨bytes, rfl, rfl⟩

theorem Sized.area_lt (sized : Sized rows) :
    (UInt32.ofNat (artWidth (characters rows))).toNat *
      (UInt32.ofNat (characters rows).length).toNat < 4294967296 := by
  rw [length_characters, UInt32.toNat_ofNat_of_lt' sized.width_lt,
    UInt32.toNat_ofNat_of_lt' sized.rows_lt]
  exact sized.pixels_lt

theorem ofRows_of_firstFault (sized : Sized rows) (advance : UInt16) {e : SheetError}
    (fault : FirstFault (artWidth (characters rows)) (characters rows) e) :
    ofRows rows advance = .ok (.error e) := by
  obtain ⟨before, row, after, split, regular, rowFault⟩ := fault
  have row_lt : row.length < 4294967296 := sized.row_lt row (by simp [split])
  have width_lt := sized.width_lt
  refine ofRows_eq_ok_iff.mpr ⟨sized.area_lt, ?_⟩
  generalize artWidth (characters rows) = width at *
  rw [← Nat.zero_add before.length] at rowFault
  rw [split, readRows_of_fault width_lt row_lt regular rowFault]
  rfl

theorem ofRows_of_regular (sized : Sized rows) (advance : UInt16)
    (regular : ∀ row ∈ characters rows, Regular (artWidth (characters rows)) row) :
    ∃ d, ofRows rows advance = .ok (.ok d) ∧ d.Shows (characters rows) := by
  have read := readRows_of_regular regular 0 #[]
  refine ⟨_, ofRows_eq_ok_iff.mpr ⟨sized.area_lt, by rw [read]; rfl⟩, ?_⟩
  constructor
  case width_eq => exact UInt32.toNat_ofNat_of_lt' sized.width_lt
  case height_eq =>
    rw [inked, length_characters]
    exact UInt32.toNat_ofNat_of_lt' sized.rows_lt
  case size_eq =>
    rw [inked, Array.empty_append, List.size_toArray]
    exact length_flatMap_ink regular
  case pixel_eq =>
    intro x y row c isRow isPixel
    rw [inked, Array.empty_append, List.getElem?_toArray]
    exact getElem?_flatMap_ink regular isRow isPixel

/-- Take any row art whose rows and pixels can be counted.  It is accepted precisely if all
its rows are regular: each is as wide as the first, and all characters stand for pixels.
The drawing then shows the art.  Otherwise there is an error about the first row that is
not regular: about its width if it is wrong, and else about its first bad character. -/
theorem art_is_accepted_iff_regular (rows : List String) (advance : UInt16)
    (sized : Sized rows) :
    ((∃ d, ofRows rows advance = .ok (.ok d)) ↔
      ∀ row ∈ characters rows, Regular (artWidth (characters rows)) row) ∧
    (∀ d, ofRows rows advance = .ok (.ok d) → d.Shows (characters rows)) ∧
    ((∃ e, ofRows rows advance = .ok (.error e)) ↔
      ¬ ∀ row ∈ characters rows, Regular (artWidth (characters rows)) row) ∧
    (∀ e, ofRows rows advance = .ok (.error e) ↔
      FirstFault (artWidth (characters rows)) (characters rows) e) := by
  by_cases regular : ∀ row ∈ characters rows, Regular (artWidth (characters rows)) row
  · obtain ⟨d, isDrawing, shows⟩ := ofRows_of_regular sized advance regular
    have noError : ∀ e, ofRows rows advance ≠ .ok (.error e) := by
      intro e isError
      rw [isDrawing] at isError
      cases isError
    refine ⟨iff_of_true ⟨d, isDrawing⟩ regular, ?_,
      iff_of_false (fun ⟨e, isError⟩ => noError e isError) (fun irregular => irregular regular),
      fun e => ⟨fun isError => absurd isError (noError e), fun fault => ?_⟩⟩
    · intro other isOther
      rw [isDrawing] at isOther
      cases isOther
      exact shows
    · exact absurd (ofRows_of_firstFault sized advance fault) (noError e)
  · obtain ⟨e, fault⟩ := exists_firstFault regular
    have isError := ofRows_of_firstFault sized advance fault
    have noDrawing : ∀ d, ofRows rows advance ≠ .ok (.ok d) := by
      intro d isDrawing
      rw [isError] at isDrawing
      cases isDrawing
    refine ⟨iff_of_false (fun ⟨d, isDrawing⟩ => noDrawing d isDrawing) regular,
      fun d isDrawing => absurd isDrawing (noDrawing d), iff_of_true ⟨e, isError⟩ regular,
      fun other => ⟨fun isOther => ?_, ofRows_of_firstFault sized advance⟩⟩
    rw [isError] at isOther
    cases isOther
    exact fault

/-- Art whose second row has a bad character and whose third row is too wide. -/
def blottedArt : List String := ["#.", ".é", "###"]

/-- Only the first fault counts, and mended art is accepted. -/
theorem art_is_accepted_iff_regular_blottedArt :
    Sized blottedArt ∧ ofRows blottedArt 3 = .ok (.error (.badPixel 'é' 1)) ∧
    ∃ d, ofRows ["#.", ". "] 3 = .ok (.ok d) ∧ d.width.toNat = 2 ∧
      d.coverage[0]? = some 255 ∧ d.coverage[3]? = some 0 := by
  have blotted : Sized blottedArt := ⟨by decide, by decide, by decide⟩
  have mended : Sized ["#.", ". "] := ⟨by decide, by decide, by decide⟩
  obtain ⟨_, _, _, faults⟩ := art_is_accepted_iff_regular blottedArt 3 blotted
  obtain ⟨accepted, draws, _⟩ := art_is_accepted_iff_regular ["#.", ". "] 3 mended
  refine ⟨blotted, (faults _).mpr ?_, ?_⟩
  · exact ⟨[['#', '.']], ['.', 'é'], [['#', '#', '#']], by decide, by decide,
      .pixel rfl (show _ = ['.'] ++ 'é' :: [] from rfl) (by simp [IsPixel]) (by decide)⟩
  · obtain ⟨d, isDrawing⟩ := accepted.mpr (by decide)
    have shows := draws d isDrawing
    exact ⟨d, isDrawing, shows.width_eq,
      shows.pixel_eq (x := 0) (y := 0) rfl rfl, shows.pixel_eq (x := 1) (y := 1) rfl rfl⟩

end Drawing

end Inkwell
