import Inkwell.Proofs.Text.Decoding
import Inkwell.Text.Cluster

/-!
# Clusters tile the text

Splitting characters into clusters loses and repeats none, and the clusters lie
one after the other on the units of the text.  Each cluster can be read back from
its own units, wherever the malformed surrogates are and whatever the rules
join.
-/

namespace Inkwell

namespace Cluster

/-- The clusters lie one after the other from unit `start` to unit `stop`. -/
def Tile (start stop : Nat) : List Cluster → Prop
  | [] => start = stop
  | cluster :: rest => cluster.start = start ∧ Tile cluster.stop stop rest

/-- What comes after a cluster ends where the characters of the cluster and what comes
after them do. -/
theorem stop_add_textLength (cluster : Cluster) (rest : List Char) :
    cluster.stop + Utf16.textLength rest =
      cluster.start + Utf16.textLength (cluster.scalars ++ rest) := by
  rw [stop, Utf16.textLength_append, Nat.add_assoc]

/-- A cluster begins where the characters before it end. -/
theorem Tile.start_eq {start stop : Nat} {before after : List Cluster}
    {cluster : Cluster} (tile : Tile start stop (before ++ cluster :: after)) :
    cluster.start = start + Utf16.textLength (before.flatMap scalars) := by
  induction before generalizing start with
  | nil => exact tile.1
  | cons first rest inductionHypothesis =>
      obtain ⟨rfl, others⟩ := tile
      rw [inductionHypothesis others, Cluster.stop, List.flatMap_cons,
        Utf16.textLength_append, Nat.add_assoc]

/-- A cluster has one or two characters. -/
theorem length_scalars (cluster : Cluster) :
    cluster.scalars.length = 1 ∨ cluster.scalars.length = 2 := by
  rcases cluster with ⟨first, _ | second, start⟩
  · exact .inl rfl
  · exact .inr rfl

end Cluster

namespace RuleTable

/-- Splitting keeps every character, in order. -/
theorem flatMap_scalars_segmentFrom (table : RuleTable) (start : Nat)
    (cs : List Char) :
    (table.segmentFrom start cs).flatMap Cluster.scalars = cs := by
  fun_induction segmentFrom table start cs with
  | case1 => rfl
  | case2 start c => rfl
  | case3 start c d rest joins cluster inductionHypothesis =>
      rw [List.flatMap_cons, inductionHypothesis]
      rfl
  | case4 start c d rest apart cluster inductionHypothesis =>
      rw [List.flatMap_cons, inductionHypothesis]
      rfl

/-- The clusters tile the units of the characters. -/
theorem tile_segmentFrom (table : RuleTable) (start : Nat) (cs : List Char) :
    Cluster.Tile start (start + Utf16.textLength cs)
      (table.segmentFrom start cs) := by
  fun_induction segmentFrom table start cs with
  | case1 => rfl
  | case2 start c => exact ⟨rfl, rfl⟩
  | case3 start c d rest joins cluster inductionHypothesis =>
      have stop_eq : cluster.stop + Utf16.textLength rest =
          start + Utf16.textLength (c :: d :: rest) :=
        cluster.stop_add_textLength rest
      exact ⟨rfl, stop_eq ▸ inductionHypothesis⟩
  | case4 start c d rest apart cluster inductionHypothesis =>
      have stop_eq : cluster.stop + Utf16.textLength (d :: rest) =
          start + Utf16.textLength (c :: d :: rest) :=
        cluster.stop_add_textLength (d :: rest)
      exact ⟨rfl, stop_eq ▸ inductionHypothesis⟩

/-- Splitting a decoded text keeps every character, in order. -/
theorem flatMap_scalars_segment (table : RuleTable) (cs : List Char) :
    (table.segment cs).flatMap Cluster.scalars = cs :=
  table.flatMap_scalars_segmentFrom 0 cs

/-- The clusters of a decoded text tile its units. -/
theorem tile_segment_decode (table : RuleTable) (units : List UInt16) :
    Cluster.Tile 0 units.length (table.segment (Utf16.decode units)) := by
  have tile := table.tile_segmentFrom 0 (Utf16.decode units)
  rw [Utf16.textLength_decode, Nat.zero_add] at tile
  exact tile

/-- The units of a cluster decode to its characters. -/
theorem decode_extract (table : RuleTable) (units : List UInt16)
    {cluster : Cluster} (member : cluster ∈ table.segment (Utf16.decode units)) :
    Utf16.decode (units.extract cluster.start cluster.stop) = cluster.scalars := by
  obtain ⟨before, after, split⟩ := List.append_of_mem member
  have start_eq := (split ▸ table.tile_segment_decode units).start_eq
  rw [Nat.zero_add] at start_eq
  have whole : Utf16.decode units = before.flatMap Cluster.scalars ++
      (cluster.scalars ++ after.flatMap Cluster.scalars) := by
    rw [← table.flatMap_scalars_segment (Utf16.decode units), split,
      List.flatMap_append, List.flatMap_cons]
  have fromStart := (Utf16.decode_cut whole).2
  rw [← start_eq] at fromStart
  have inside := (Utf16.decode_cut fromStart).1
  rw [List.extract_eq_take_drop, Cluster.stop, Nat.add_sub_cancel_left]
  exact inside

end RuleTable

end Inkwell
