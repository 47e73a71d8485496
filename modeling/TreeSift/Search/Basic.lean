/-
  TreeSift.Search.Basic — searches, from a request to what is found.

  A search is by wildcard or by regular expression. It checks the request, finds
  the paths, and leaves a record with the shared logger if it gets that far.

    §1 Methods   `Method`
    §2 Searches  `Finding`, `search`
    §3 Records   `Finding.record`, `searchRecorded`
-/
import TreeSift.Journal.Basic
import TreeSift.Search.Relative
import TreeSift.Search.Request

namespace TreeSift

/-! ## §1 Methods -/

/-- How a pattern is understood. -/
inductive Method where
  | wildcard
  /-- A regular expression, with the text that separates names. -/
  | regex (sep : String)
  deriving DecidableEq, Repr

/-- Regular expressions for names that a slash separates. -/
def Method.plainRegex : Method := .regex "/"

/-! ## §2 Searches -/

/-- What a search has found, and for which inquiry. -/
structure Finding where
  inquiry : Inquiry
  paths : PathSet

/-- What an inquiry leads to. -/
def Inquiry.paths (t : Tree) (q : Inquiry) : Method → Except Failure PathSet
  | .wildcard =>
    (Wildcard.resolve t (Pattern.segments q.pattern) q.target 0 q.root).mapError .listing
  | .regex sep => do
    let r ← searchRegex q.pattern sep
    (relativeMatches t q.root r q.target).mapError .listing

/-- Carries out a request. -/
def search (t : Tree) (method : Method) (r : Request) : Except Failure Finding := do
  let inquiry ← r.check t
  return ⟨inquiry, ← inquiry.paths t method⟩

/-! ## §3 Records -/

/-- The message of the record of a search. -/
def Method.message : Method → String
  | .wildcard => "Wildcard search complete"
  | .regex _ => "Regex search complete"

/-- The fields of the record of a search. -/
def Finding.context (f : Finding) : Context := [
  ("root", .text f.inquiry.root),
  ("pattern", .text f.inquiry.pattern),
  ("target", .text f.inquiry.target.name),
  ("matches", .number f.paths.size)]

/-- Leaves the record of a search. -/
def Finding.record (f : Finding) (method : Method) (j : Journal) : Journal :=
  j.debugShared method.message f.context

/-- Carries out a request and records its success. -/
def searchRecorded (t : Tree) (method : Method) (r : Request) (j : Journal) :
    Except Failure Finding × Journal :=
  match search t method r with
  | .ok f => (.ok f, f.record method j)
  | .error e => (.error e, j)

end TreeSift
