import RowFilter.Binding.Identifier
import RowFilter.Session.GuidSet

/-!
Tracking: matches one by one become tracked rows and signal IDs. A match whose signal ID has
occurred before is skipped, whatever is tracked.
-/

namespace RowFilter

/-- What is tracked: rows and signal IDs in the order of their matches, and the set of the IDs. -/
structure Tracked where
  rows : List Found
  signalIds : List Guid
  signalIdSet : GuidSet
deriving DecidableEq

namespace Tracked

def empty : Tracked := ⟨[], [], []⟩

/-- Adds what is tracked of a match. -/
def add (t : Tracked) (options : Options) (m : Match) : Tracked :=
  let t :=
    match m.signalId with
    | some id =>
      if options.trackSignalIds then
        { t with signalIds := t.signalIds ++ [id], signalIdSet := t.signalIdSet.insert id }
      else t
    | none => t
  match m.found with
  | some row => if options.trackRows then { t with rows := t.rows ++ [row] } else t
  | none => t

end Tracked

/-- A run over matches: what is tracked, the signal IDs that have occurred, and what was
reported. -/
structure Tracking where
  tracked : Tracked
  seen : GuidSet
  log : Log

namespace Tracking

def start : Tracking := ⟨.empty, [], []⟩

/-- The next match. -/
def next (options : Options) (s : Tracking) (m : Match) : Tracking :=
  match m.signalId with
  | none => { s with tracked := s.tracked.add options m }
  | some id =>
    if s.seen.contains id then { s with log := s.log ++ [.duplicateSkipped id] }
    else { s with tracked := s.tracked.add options m, seen := s.seen.insert id }

/-- All matches in order. -/
def run (options : Options) (ms : List Match) : Tracking :=
  ms.foldl (next options) start

end Tracking

end RowFilter
