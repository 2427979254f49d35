import LobbyPlacement.Journal
import LobbyPlacement.Text.Numeral
import LobbyPlacement.Text.Split

/-!
# Thresholds of the journal

A threshold is the rank up to which lines are shown; nothing is shown at zero. It is the rank of the
level in force unless a filter is given. A filter is a list of directives, each a rank or a rank for
the programs whose name begins in some way; the longest such beginning decides.
-/

namespace LobbyPlacement

/-- A rank for the programs whose name begins with `scope`, or for all. -/
structure Directive where
  scope : Option String
  rank : Nat
deriving DecidableEq, Repr

namespace Directive

/-- The rank that lets every line through. -/
def allLines : Nat := LogLevel.trace.rank

/-- A rank in digits or as the name of a level, or `off`. -/
def rank? (s : String) : Option Nat :=
  match Text.numeral? allLines s.toList with
  | some rank => some rank
  | none =>
    let word := s.map Char.toLower
    if word = "off" then some 0
    else (LogLevel.all.find? fun level => level.name = word).map LogLevel.rank

/-- A name begins with a letter, a digit or one of a few marks. -/
def canBegin (c : Char) : Bool := c.isAlphanum || c = '-' || c = ':' || c = '_' || 127 < c.toNat

/-- A scope without a rank lets all of its lines through. -/
def ofText? (s : String) : Option Directive :=
  match s.toList with
  | [] => none
  | c :: rest =>
    if !canBegin c then none
    else match Text.cutFirst? '=' (c :: rest) with
      | some (scope, []) => some ⟨some (String.ofList scope), allLines⟩
      | some (scope, word) =>
        (rank? (String.ofList word)).map fun rank => ⟨some (String.ofList scope), rank⟩
      | none => some (((rank? s).map fun rank => ⟨none, rank⟩).getD ⟨some s, allLines⟩)

/-- How closely a directive is meant for a program; `none` if it is not. -/
def closeness? (program : String) (d : Directive) : Option Nat :=
  match d.scope with
  | none => some 0
  | some scope =>
    if scope.toList.isPrefixOf program.toList then some (scope.length + 1) else none

end Directive

namespace Threshold

def program : String := "game_coordinator"

/-- The rank among directives that is meant most closely, the last of several. Without any
directive only the gravest lines are shown. -/
def ofDirectives (ds : List Directive) : Nat :=
  if ds.isEmpty then LogLevel.error.rank
  else (ds.foldl (fun (best : Nat × Nat) d =>
    match d.closeness? program with
    | some closeness => if best.1 ≤ closeness then (closeness, d.rank) else best
    | none => best) (0, 0)).2

def ofFilter? (filter : String) : Option Nat :=
  let written := (Text.pieces ',' filter.toList).filter fun cs => !cs.isEmpty
  (written.mapM fun cs => Directive.ofText? (String.ofList cs)).map ofDirectives

def ofLevel (level : String) : Nat := ((LogLevel.ofText? level).getD .error).rank

/-- A filter that can be read goes before the level of the settings. -/
def inForce (filter : Option String) (level : String) : Nat :=
  (filter.bind ofFilter?).getD (ofLevel level)

end Threshold

/-- A line is shown if its rank does not pass the threshold. -/
def JournalLine.isShown (threshold : Nat) (line : JournalLine) : Bool :=
  line.level.rank ≤ threshold

end LobbyPlacement
