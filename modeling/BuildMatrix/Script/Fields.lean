import BuildMatrix.Script.Letters

namespace BuildMatrix.Script

/-- A part of an expanded word: a character, which is guarded if it was quoted; the place of a
quote; or the gap between two parameters. -/
inductive Glyph where
  | letter (c : Char) (guarded : Bool)
  | mark
  | gap
  deriving DecidableEq, Inhabited

namespace Glyph

def letter? : Glyph → Option Char
  | letter c _ => some c
  | _ => none

def text (gs : List Glyph) : Letters := gs.filterMap letter?

/-- A word as a pattern: a backslash stands before what was quoted. After a backslash that is in
the word itself none is added. -/
def pattern (gs : List Glyph) : Letters := go true gs
where
  go (adds : Bool) : List Glyph → Letters
    | [] => []
    | mark :: rest => go true rest
    | gap :: _ => []
    | letter c true :: rest => if adds then '\\' :: c :: go true rest else c :: go true rest
    | letter c false :: rest => c :: go (c ≠ '\\') rest

end Glyph

/-- A stretch of an expanded word that is split: at the characters for that, or only at gaps. -/
structure Region where
  start : Nat
  stop : Nat
  onlyGaps : Bool
  deriving DecidableEq, Inhabited

structure Expanding where
  glyphs : List Glyph := []
  size : Nat := 0
  regions : List Region := []
  deriving Inhabited

namespace Expanding

def push (x : Expanding) (g : Glyph) : Expanding :=
  { x with glyphs := g :: x.glyphs, size := x.size + 1 }

def append (x : Expanding) (gs : List Glyph) : Expanding := gs.foldl push x

def region (x : Expanding) (start : Nat) (onlyGaps : Bool) : Expanding :=
  { x with regions := ⟨start, x.size, onlyGaps⟩ :: x.regions }

def after (x : Expanding) (start : Nat) : List Glyph := (x.glyphs.take (x.size - start)).reverse

def cut (x : Expanding) (start : Nat) : Expanding :=
  { x with glyphs := x.glyphs.drop (x.size - start), size := start }

def cutRegions (x : Expanding) (stop : Nat) : Expanding :=
  match x.regions.reverse with
  | [] => x
  | first :: rest =>
    if stop < first.stop then
      if stop < first.start then { x with regions := [] }
      else { x with regions := [{ first with stop := stop }] }
    else
      let kept := first :: rest.takeWhile fun r ↦ r.start < stop
      match kept.reverse with
      | last :: front => { x with regions := { last with stop := min last.stop stop } :: front }
      | [] => x

end Expanding

/-- Splitting in progress: where the field at hand began, whether blanks are being skipped, the
end of the last field without the blanks behind it, how many more fields may be split off, and
those that were. -/
structure Splitting where
  start : Nat := 0
  blank : Bool := false
  cut : Option Nat := none
  left : Option Nat := none
  fields : List (List Glyph) := []
  deriving Inhabited

namespace Splitting

def isBlankSeparator (c : Char) : Bool := c = ' ' || c = '\t' || c = '\n'

/-- One step at a place in a region, for a separator list. `lone` tells that gaps make fields
even if these are empty. -/
def step (glyphs : Array Glyph) (separators : Letters) (lone : Bool) (s : Splitting) (q : Nat) :
    Splitting :=
  let (separates, blank) := match glyphs[q]? with
    | some (.letter c _) =>
      let yes := separators.contains c
      (yes, yes && isBlankSeparator c)
    | some .gap => (true, true)
    | _ => (false, false)
  let p := q + 1
  if s.left = some 0 then
    if blank then { s with cut := some (s.cut.getD q) }
    else { s with cut := if separates && s.blank then s.cut else none, blank := false }
  else
    let skipping := s.blank
    let q := if skipping && separates then p else q
    let s := if skipping then { s with start := q } else s
    if skipping && blank then s
    else if !skipping && separates then
      let s := if lone then s else { s with blank := blank }
      if q = s.start && s.blank then { s with start := p, blank := false }
      else
        match s.left with
        | some 1 => { s with left := some 0, cut := some q }
        | _ =>
          { s with left := s.left.map (· - 1), start := p,
                   fields := (glyphs.extract s.start q).toList :: s.fields }
    else { s with blank := false }

end Splitting

/-- Splits an expanded word into fields, at most `limit` of them if there is a limit; then the last
one holds all that remains, but for blanks at its end. -/
def splitFields (separators : Letters) (limit : Option Nat) (x : Expanding) : List (List Glyph) :=
  let glyphs := x.glyphs.reverse.toArray
  let regions := x.regions.reverse
  let visit (state : Splitting × Bool) (r : Region) : Splitting × Bool :=
    let (s, afterGaps) := state
    let s := { s with blank := false }
    let lone := r.onlyGaps || afterGaps
    let separators := if r.onlyGaps then [] else separators
    let places := List.range' r.start (r.stop - r.start)
    (places.foldl (Splitting.step glyphs separators lone) s, r.onlyGaps)
  let (s, endsWithGaps) := regions.foldl visit ({ left := limit }, false)
  let tail (stop : Nat) := (glyphs.extract s.start stop).toList
  let last :=
    if endsWithGaps then [tail glyphs.size]
    else
      let rest := tail (s.cut.getD glyphs.size)
      if rest.isEmpty || rest.head? = some .gap then [] else [rest]
  s.fields.reverse ++ last

end BuildMatrix.Script
