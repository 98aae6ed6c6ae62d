import Reroute.Rule.Basic

/-!
# Explaining a rule

Why a rule has its kind, and what may be unexpected about it.
-/

namespace Reroute

/-- Something about a rule that its writer may not expect. -/
inductive Warning where
  /-- The destination of a wildcard has a star. -/
  | starInDestination
  /-- The source has a query or a fragment. -/
  | queryOrFragment
  /-- The last segment of the source looks like a file. -/
  | fileSegment (segment : Points)
  /-- The last segment of the source has a dot. -/
  | dottedSegment (segment : Points)
  /-- The path of the source has a dot before its last segment. -/
  | dottedPath (path : Points)
  /-- The source is matched whole. -/
  | oneUrl
  /-- The source ends in `/` and the destination does not. -/
  | noSeparator
  deriving Repr, DecidableEq

namespace Warning

def text : Warning → Points
  | .starInDestination => "'*' in the destination is copied literally, not substituted."
  | .queryOrFragment => "Contains '?' or '#': only this exact URL is redirected."
  | .fileSegment segment =>
    "Final segment '" ++ segment ++ "' looks like a file name: only this exact URL is redirected."
  | .dottedSegment segment =>
    "Final segment '" ++ segment ++ "' contains '.', so it is not treated as a path prefix."
  | .dottedPath path =>
    "Path '" ++ path ++ "' contains '.', so it is not treated as a path prefix."
  | .oneUrl => "Add a trailing '/' or a '*' to redirect more than this one URL."
  | .noSeparator =>
    "Source ends with '/' but the destination does not; " ++
      "the rest of the URL is appended with no separator."

end Warning

namespace Source

/-- What keeps a source that is matched whole from being a leading one, as far as
its path goes. -/
def pathWarning? (s : List Code) : Option Warning :=
  match finalSegment? s with
  | some segment =>
    if segment.contains '.' then
      if looksLikeFile s then some (.fileSegment ⟨segment⟩)
      else some (.dottedSegment ⟨segment⟩)
    else if (urlPath s).contains '.' then some (.dottedPath ⟨urlPath s⟩)
    else none
  | none => none

end Source

/-- The kind of a rule, the two findings it rests on, and the texts of its
warnings. -/
structure Diagnosis where
  kind : Kind
  likelyPrefix : Bool
  pathSegment : Bool
  warnings : List Points
  deriving Repr, DecidableEq

namespace Rule

def warnings (r : Rule) : List Warning :=
  let source := r.source.toList
  let destination := r.destination.toList
  match r.kind with
  | .wildcard => if destination.contains Source.star then [.starInDestination] else []
  | .whole =>
    (if Source.hasQueryOrFragment source then [.queryOrFragment] else []) ++
      (Source.pathWarning? source).toList ++ [.oneUrl]
  | .leading =>
    if Source.endsInSlash source && !Source.endsInSlash destination then [.noSeparator] else []

/-- The diagnosis of a rule. The findings are not looked for in a wildcard. -/
def diagnose (r : Rule) : Diagnosis :=
  let source := r.source.toList
  let plain := r.kind ≠ .wildcard
  { kind := r.kind
    likelyPrefix := plain && Source.isLikelyPrefix source
    pathSegment := plain && Source.endsWithPathSegment source
    warnings := r.warnings.map Warning.text }

end Rule

end Reroute
