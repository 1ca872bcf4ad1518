import TableSchema.Pattern.Basic

/-!
# Finding a pattern in a text

A text of `n` characters has `n + 1` places. A set of places is a number whose bit `i` stands for the
place in front of character `i`. A pattern sends a set of places, where a stretch may begin, to the set of
places where it may end; a text contains the pattern when the set of all places is sent to one that is not
empty.
-/

namespace TableSchema

/-- The places in front of a character of the class. -/
def charPlaces (k : CharClass) : List Char → Nat
  | [] => 0
  | c :: s => (k.contains c).toNat + 2 * charPlaces k s

/-- The places of a text behind `before` where the look holds. -/
def lookPlaces (l : Look) (before : Option Char) : List Char → Nat
  | [] => (l.holds before none).toNat
  | c :: s => (l.holds before (some c)).toNat + 2 * lookPlaces l (some c) s

/-- A pattern on one text: its classes and looks are replaced by the places where they hold. -/
inductive Route where
  | stay
  | advance (places : Nat)
  | check (places : Nat)
  | seq (r t : Route)
  | alt (r t : Route)
  | times (r : Route) (least : Nat) (most : Option Nat)

def Pattern.route (s : List Char) : Pattern → Route
  | empty => .stay
  | char k => .advance (charPlaces k s)
  | look l => .check (lookPlaces l none s)
  | seq p q => .seq (p.route s) (q.route s)
  | alt p q => .alt (p.route s) (q.route s)
  | times p least most => .times (p.route s) least most

/-- `f` applied `n` times, or until nothing changes. -/
def applyTimes (f : Nat → Nat) : Nat → Nat → Nat
  | 0, places => places
  | n + 1, places => if f places = places then places else applyTimes f n (f places)

/-- Adds what `f` reaches, `n` times, or until nothing is new. -/
def growTimes (f : Nat → Nat) : Nat → Nat → Nat
  | 0, places => places
  | n + 1, places =>
    if places ||| f places = places then places else growTimes f n (places ||| f places)

/-- The places where a stretch ends that begins at one of `places`; the text has `size` characters. -/
def Route.ends (size : Nat) : Route → Nat → Nat
  | stay, places => places
  | advance here, places => (places &&& here) <<< 1
  | check here, places => places &&& here
  | seq r t, places => t.ends size (r.ends size places)
  | alt r t, places => r.ends size places ||| t.ends size places
  | times r least most, places =>
    let begun := applyTimes (r.ends size) least places
    match most with
    | none => growTimes (r.ends size) (size + 1) begun
    | some most => growTimes (r.ends size) (most - least) begun

/-- Some stretch of the text matches the pattern. -/
def Pattern.foundIn (p : Pattern) (s : List Char) : Bool :=
  (p.route s).ends s.length (Nat.pow 2 (s.length + 1) - 1) != 0

end TableSchema
