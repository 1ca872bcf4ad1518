import TableSchema.Pattern.Basic

/-!
# The size of patterns

A pattern is matched by an automaton that reads UTF-8, and a pattern whose automaton is too large is refused. A state
takes 32 bytes, the number of a next state 4 bytes and a range of bytes with its next state 8 bytes. A repetition
takes its pattern as often as it counts to, so a short pattern can be a large one. Sizes are exact for classes and
near enough for the few states that join them.
-/

namespace TableSchema

/-! ## Runs in order -/

def Run.points (r : Run) : List Nat :=
  (List.range ((r.last - r.first) / r.step + 1)).map fun i => r.first + r.step * i

/-- The same code points in runs without gaps. -/
def Run.solid (r : Run) : CodeSet :=
  if r.step ≤ 1 then [r] else r.points.map fun n => ⟨n, n, 1⟩

namespace CodeSet

/-- Adds a run to runs in order, with a gap behind each: those that it touches become one run with it. -/
def join : Run → CodeSet → CodeSet
  | r, [] => [r]
  | r, u :: s =>
    if r.last + 1 < u.first then r :: u :: s
    else if u.last + 1 < r.first then u :: join r s
    else join ⟨min r.first u.first, max r.last u.last, 1⟩ s

def joined (s : CodeSet) : CodeSet :=
  (s.flatMap Run.solid).foldr join []

/-- What lies between runs in order, from `start` on. -/
def gaps (start : Nat) : CodeSet → CodeSet
  | [] => if start ≤ 0x10ffff then [⟨start, 0x10ffff, 1⟩] else []
  | r :: s => (if start < r.first then [⟨start, r.first - 1, 1⟩] else []) ++ gaps (r.last + 1) s

def union (s u : CodeSet) : CodeSet :=
  s.foldr join u

def diff (s u : CodeSet) : CodeSet :=
  gaps 0 (union (gaps 0 s) u)

end CodeSet

/-! ## Runs of a class -/

def uppercaseRuns : CodeSet :=
  Category.lu.runs ++ PropertyTable.otherUppercase

def lowercaseRuns : CodeSet :=
  Category.ll.runs ++ PropertyTable.otherLowercase

def alphabeticRuns : CodeSet :=
  uppercaseRuns ++ lowercaseRuns ++ PropertyTable.otherAlphabetic ++
    [Category.lt, .lm, .lo, .nl].flatMap Category.runs

def Property.codes : Property → CodeSet
  | .blank => CodeSet.ofText "9-d 20 85 a0 1680 2000-200a 2028-2029 202f 205f 3000"
  | .digit => Category.nd.runs
  | .word => alphabeticRuns ++ CodeSet.ofText "200c-200d" ++
    (Category.marks ++ [Category.nd, .pc]).flatMap Category.runs
  | .alphabetic => alphabeticRuns
  | .lowercase => lowercaseRuns
  | .uppercase => uppercaseRuns
  | .cased => uppercaseRuns ++ lowercaseRuns ++ Category.lt.runs
  | .caseIgnorable => otherCaseIgnorable ++ CodeSet.ofText "27 2e 3a 5e 60" ++
    [Category.mn, .me, .cf, .lm, .sk].flatMap Category.runs
  | .assigned => Category.all.flatMap Category.runs
  | .categories ks => ks.flatMap Category.runs
  | .runs s => s

def asciiLetters : List Char :=
  ((List.range 128).map Char.ofNat).filter isAsciiLetter

/-- All characters that are equal to another one up to case. -/
def casedChars : List Char :=
  asciiLetters ++ foldingTable.flatMap fun s => s.run.points.flatMap fun n =>
    [Char.ofNat n, Char.ofNat (s.image + (n - s.run.first))]

namespace CharClass

/-- The runs with those of `cs` that they hold a character of the orbit of. -/
def closeRuns (orbit : Char → List Char) (cs : List Char) (s : CodeSet) : CodeSet :=
  (cs.filter fun c => (orbit c).any s.contains).foldr (fun c => CodeSet.join ⟨c.toNat, c.toNat, 1⟩) s

/-- The code points of a class as runs in order. -/
def runs : CharClass → CodeSet
  | none => []
  | range first last => if first ≤ last then [⟨first.toNat, last.toNat, 1⟩] else []
  | property p => p.codes.joined
  | compl k => k.runs.gaps 0
  | union k l => k.runs.union l.runs
  | inter k l => k.runs.diff (l.runs.gaps 0)
  | diff k l => k.runs.diff l.runs
  | symmDiff k l => (k.runs.diff l.runs).union (l.runs.diff k.runs)
  | anyCase k => closeRuns caseOrbit casedChars k.runs
  | anyAsciiCase k => closeRuns asciiOrbit asciiLetters k.runs

/-! ## The size of a class -/

/-- Numbers of `n + 1` digits to the base 64, digit by digit: each list stands for all numbers with digits in its
ranges, and together they are the numbers from `first` to `last`. -/
def digitRanges : Nat → Nat → Nat → List (List (Nat × Nat))
  | 0, first, last => [[(first, last)]]
  | n + 1, first, last =>
    let block := Nat.pow 64 (n + 1)
    let low := first / block
    let high := last / block
    if low = high then (digitRanges n (first % block) (last % block)).map ((low, low) :: ·)
    else
      let front := if first % block = 0 then []
        else (digitRanges n (first % block) (block - 1)).map ((low, low) :: ·)
      let back := if (last + 1) % block = 0 then []
        else (digitRanges n 0 (last % block)).map ((high, high) :: ·)
      let least := (first + block - 1) / block
      let most := (last + 1) / block
      front ++ (if least < most then [(least, most - 1) :: List.replicate (n + 1) (0, 63)] else []) ++ back

/-- The code points that UTF-8 writes with `n + 1` bytes, as their bounds and `n`; surrogates are left out. -/
def utf8Lengths : List (Nat × Nat × Nat) :=
  [(0, 0x7f, 0), (0x80, 0x7ff, 1), (0x800, 0xd7ff, 2), (0xe000, 0xffff, 2), (0x10000, 0x10ffff, 3)]

/-- The ranges of bytes that lead through the characters of a run. -/
def byteRanges (r : Run) : List (List (Nat × Nat)) :=
  utf8Lengths.flatMap fun (least, most, n) =>
    if max r.first least ≤ min r.last most then digitRanges n (max r.first least) (min r.last most) else []

def commonLength : List (Nat × Nat) → List (Nat × Nat) → Nat
  | a :: s, b :: t => if a = b then commonLength s t + 1 else 0
  | _, _ => 0

/-- The states on the ways `ws`, of which each goes along with the one before it as far as they have the same
ranges. -/
def stateCount (before : List (Nat × Nat)) : List (List (Nat × Nat)) → Nat
  | [] => 0
  | w :: ws =>
    w.length - (if before.length = w.length then commonLength before w else 0) + stateCount w ws

/-- Bytes that the states of a class take. A single character has a state for each of its bytes. -/
def size (k : CharClass) : Nat :=
  let s := k.runs
  match s with
  | [⟨first, last, _⟩] =>
    if first = last then 32 * (Char.ofNat first).utf8Size else classSize s
  | _ => classSize s
where
  classSize (s : CodeSet) : Nat :=
    if s.all (·.last < 128) then 64 + 8 * s.length
    else
      let ways := s.flatMap byteRanges
      64 + 4 * ways.length + 32 * stateCount [] ways

end CharClass

/-! ## The size of a pattern -/

namespace Pattern

/-- Nothing but the empty text matches, so there is no use in repeating it. -/
def onlyEmpty : Pattern → Bool
  | empty => true
  | char _ => false
  | look _ => true
  | seq p q => p.onlyEmpty && q.onlyEmpty
  | alt p q => p.onlyEmpty && q.onlyEmpty
  | times p _ most => p.onlyEmpty || most == some 0

def timesSize (size least : Nat) : Option Nat → Nat
  | none => max least 1 * size + 40
  | some most => most * size + (most - least) * 40

def size : Pattern → Nat
  | empty => 32
  | char k => k.size
  | look _ => 32
  | seq p q => p.size + q.size
  | alt p q => p.size + q.size + 72
  | times p least most =>
    if p.onlyEmpty then timesSize p.size (min least 1) (most.map (min 1)) else timesSize p.size least most

theorem size_times_exactly {p : Pattern} (h : p.onlyEmpty = false) (n : Nat) :
    (times p n (some n)).size = n * p.size := by
  have hsize : (times p n (some n)).size = timesSize p.size n (some n) := if_neg (by simp [h])
  rw [hsize]
  simp [timesSize]

/-- Ten mebibytes. -/
def maxSize : Nat := 10485760

end Pattern

end TableSchema
