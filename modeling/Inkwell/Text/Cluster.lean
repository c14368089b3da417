import Inkwell.Text.JoinRule
import Inkwell.Text.Utf16

/-!
# Clusters

A cluster is what gets one glyph: a character on its own, or two neighbours
that a rule joins.  Text is split from left to right; a character is joined
with the next one whenever the rule table says so, and a character that was
joined is not looked at again.
-/

namespace Inkwell

/-- One or two characters that begin at a unit of the text. -/
structure Cluster where
  first : Char
  second : Option Char
  /-- The unit at which the cluster begins. -/
  start : Nat
  deriving DecidableEq

namespace Cluster

/-- A character on its own. -/
def single (c : Char) (start : Nat) : Cluster := ⟨c, none, start⟩

/-- Two joined characters. -/
def pair (c d : Char) (start : Nat) : Cluster := ⟨c, some d, start⟩

/-- The characters of the cluster. -/
def scalars (cluster : Cluster) : List Char :=
  cluster.first :: cluster.second.toList

/-- The unit after the last one of the cluster. -/
def stop (cluster : Cluster) : Nat :=
  cluster.start + Utf16.textLength cluster.scalars

/-- The cluster is a joined pair. -/
def isSequence (cluster : Cluster) : Bool := cluster.second.isSome

/-- The cluster as text. -/
def text (cluster : Cluster) : String := String.ofList cluster.scalars

end Cluster

namespace RuleTable

/-- Split characters into clusters, the first of which begins at unit
`start`. -/
def segmentFrom (table : RuleTable) (start : Nat) : List Char → List Cluster
  | [] => []
  | [c] => [Cluster.single c start]
  | c :: d :: rest =>
      if table.joins c d then
        let cluster := Cluster.pair c d start
        cluster :: segmentFrom table cluster.stop rest
      else
        let cluster := Cluster.single c start
        cluster :: segmentFrom table cluster.stop (d :: rest)

/-- Split a text into clusters. -/
def segment (table : RuleTable) (cs : List Char) : List Cluster :=
  table.segmentFrom 0 cs

end RuleTable

end Inkwell
