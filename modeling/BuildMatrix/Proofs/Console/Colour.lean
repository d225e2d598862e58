import BuildMatrix.Proofs.Text.Erasure
import BuildMatrix.Proofs.Text.Utf8

namespace BuildMatrix

open Text (erase)

namespace Text

def escapes (s : String) : Nat := s.toList.count '\x1b'

theorem escapes_append (s t : String) : escapes (s ++ t) = escapes s + escapes t := by
  rw [escapes, String.toList_append, List.count_append]
  rfl

theorem escapes_eq_zero {s : String} (h : '\x1b' ∉ s.toList) : escapes s = 0 :=
  List.count_eq_zero_of_not_mem h

theorem escapes_join (pieces : List String) :
    escapes (String.join pieces) = (pieces.map escapes).sum := by
  rw [escapes, String.toList_join, List.count_flatMap]
  rfl

theorem escapes_endLine (s : String) : escapes (endLine s) = escapes s := by
  unfold endLine
  split
  · rfl
  · rw [escapes_append]
    rfl

theorem escapes_toString (n : Nat) : escapes (toString n) = 0 := by
  refine escapes_eq_zero fun h ↦ ?_
  have hplain := Json.isPlain_toString (.ofNat n) _ h
  exact absurd hplain (by decide)

end Text

namespace Diagnostic

theorem erase_heading {text : String} (h : '\x1b' ∉ text.toList) (color : Bool) (colour : Nat)
    (r : List Char) :
    erase ((heading color colour text).toList ++ r) = text.toList ++ erase r := by
  cases color with
  | false => exact Text.erase_append_of_notMem h r
  | true =>
    have hdigits : ∀ c ∈ '1' :: ';' :: (toString colour).toList, Text.isParameter c = true := by
      have hnumber : ∀ c ∈ (Nat.repr colour).toList, Text.isParameter c = true := by
        intro c hc
        rw [Nat.toList_repr] at hc
        have hdigit := Nat.isDigit_of_mem_toDigits (by decide) (by decide) hc
        rw [Text.isParameter, hdigit, Bool.true_or]
      exact List.forall_mem_cons.2 ⟨by decide, List.forall_mem_cons.2 ⟨by decide, hnumber⟩⟩
    have hreset : erase ('\x1b' :: '[' :: '0' :: 'm' :: r) = erase r := Text.erase_of_some rfl
    have hpainted : (heading true colour text).toList ++ r =
        '\x1b' :: '[' :: (('1' :: ';' :: (toString colour).toList) ++
          'm' :: (text.toList ++ '\x1b' :: '[' :: '0' :: 'm' :: r)) := by
      simp [heading, painted]
    rw [hpainted, Text.erase_sequence hdigits, Text.erase_append_of_notMem h, hreset]

variable (d : Diagnostic) (color : Bool)

theorem erase_suggestionText (s : List Char) (suggestions : List String) :
    erase (s ++ (suggestionText color suggestions).toList) =
      erase (s ++ (suggestionText false suggestions).toList) := by
  unfold suggestionText
  split
  case isTrue => rfl
  case isFalse =>
    have hlist (color : Bool) : s ++ ("\n" ++ heading color 32 "help" ++ ": consider:\n" ++
        numbered 1 suggestions).toList = s ++ '\n' :: ((heading color 32 "help").toList ++
          (": consider:\n" ++ numbered 1 suggestions).toList) := by
      simp
    rw [hlist, hlist, Text.erase_append_newline, Text.erase_append_newline,
      erase_heading (by decide), erase_heading (by decide)]

theorem erase_format : erase (d.format color).toList = erase (d.format false).toList := by
  have hlist (color : Bool) : (d.format color).toList = (heading color 31 "error").toList ++
      ((": " ++ d.message ++ "\n" ++ locationText d.location ++
        String.join (d.context.map contextText)).toList ++
          (suggestionText color d.suggestions).toList) := by
    simp [format]
  rw [hlist, hlist, erase_heading (by decide), erase_heading (by decide), erase_suggestionText]

open Text (escapes escapes_append)

theorem escapes_below (ls : List (List Char)) :
    escapes (String.join ((ls.map String.ofList).map fun l ↦ "    " ++ l ++ "\n")) =
      ls.flatten.count '\x1b' := by
  induction ls with
  | nil => rfl
  | cons l ls ih =>
    rw [List.map_cons, List.map_cons, String.join_cons, escapes_append, ih, escapes_append,
      escapes_append, List.flatten_cons, List.count_append, escapes, escapes, escapes,
      String.toList_ofList]
    simp

theorem escapes_contextText (text : String) : escapes (contextText text) = escapes text := by
  have hlines := Text.count_flatten_lines (c := '\x1b') (by decide) (by decide) text.toList
  change escapes (contextText text) = text.toList.count '\x1b'
  rw [← hlines, contextText, Text.linesOf]
  cases Text.lines text.toList with
  | nil => rfl
  | cons l ls =>
    rw [List.map_cons, escapes_append, escapes_below]
    simp [escapes]

theorem escapes_locationText (location : Option Path) :
    escapes (locationText location) = location.elim 0 fun p ↦ p.bytes.count 0x1B := by
  cases location with
  | none => rfl
  | some p =>
    have hfront : escapes "  --> " = 0 := by decide
    have hend : escapes "\n" = 0 := by decide
    rw [locationText, escapes_append, escapes_append, hfront, hend, Nat.zero_add]
    exact Text.Utf8.count_textOf p.bytes

theorem escapes_numbered (n : Nat) (suggestions : List String) :
    escapes (numbered n suggestions) = (suggestions.map escapes).sum := by
  induction suggestions generalizing n with
  | nil => rfl
  | cons s rest ih =>
    have hpoint : escapes ". " = 0 := by decide
    have hfront : escapes "  " = 0 := by decide
    have hend : escapes "\n" = 0 := by decide
    simp only [numbered, escapes_append, Text.escapes_toString, hpoint, hfront, hend, ih,
      List.map_cons, List.sum_cons, Nat.zero_add, Nat.add_zero]

/-- What the texts of a diagnostic bring along. -/
def escapesGiven : Nat :=
  escapes d.message + (d.location.elim 0 fun p ↦ p.bytes.count 0x1B) +
    (d.context.map escapes).sum + (d.suggestions.map escapes).sum

theorem escapes_suggestionText (suggestions : List String) :
    escapes (suggestionText false suggestions) = (suggestions.map escapes).sum := by
  unfold suggestionText
  split
  case isTrue h =>
    rw [h]
    rfl
  case isFalse =>
    have hfront : escapes ("\n" ++ heading false 32 "help" ++ ": consider:\n") = 0 := by decide
    rw [escapes_append, hfront, escapes_numbered, Nat.zero_add]

theorem escapes_format : escapes (d.format false) = d.escapesGiven := by
  have hfront : escapes (heading false 31 "error" ++ ": ") = 0 := by decide
  have hend : escapes "\n" = 0 := by decide
  have hcontext : (d.context.map contextText).map escapes = d.context.map escapes := by
    rw [List.map_map]
    exact List.map_congr_left fun text _ ↦ escapes_contextText text
  rw [format, escapes_append, escapes_append, escapes_append, escapes_append, escapes_append,
    hfront, hend, escapes_locationText, Text.escapes_join, hcontext, escapes_suggestionText]
  rw [escapesGiven, Nat.zero_add, Nat.add_zero]

end Diagnostic

namespace Console

variable {c c' : Console} (call : Call) (calls : List Call)

theorem escape_notMem_label (s : Status) : '\x1b' ∉ (Text.padLeft 12 s.label).toList := by
  cases s <;> decide

def Call.text : Call → String
  | status _ text | note text | error text | raw text => text
  | event _ => ""

def hears (c : Console) (call : Call) : Bool := !c.isJson && (!c.isQuiet || call.isLoud)

theorem status_eq (s : Status) (message : String) : c.status s message =
    if c.hears (.status s message) then .err (c.heading s ++ " " ++ message ++ "\n") else {} := by
  have hheard : (c.isJson || (c.isQuiet && s != .error)) = !c.hears (.status s message) := by
    simp [hears, Call.isLoud, bne]
  rw [status, hheard]
  cases c.hears (.status s message) <;> rfl

structure Alike (c c' : Console) : Prop where
  isJson : c.isJson = c'.isJson
  isQuiet : c.isQuiet = c'.isQuiet

theorem Alike.hears (h : c.Alike c') : c.hears call = c'.hears call := by
  rw [Console.hears, Console.hears, h.isJson, h.isQuiet]

theorem erase_status (h : c.Alike c') (s : Status) (message : String) :
    erase (c.status s message).stderr.toList = erase (c'.status s message).stderr.toList := by
  rw [status_eq, status_eq, h.hears]
  split
  · have hlist (c : Console) : (Output.err (c.heading s ++ " " ++ message ++ "\n")).stderr.toList =
        (c.heading s).toList ++ (" " ++ message ++ "\n").toList := by
      simp [Output.err]
    rw [hlist, hlist, heading, heading, Diagnostic.erase_heading (escape_notMem_label s),
      Diagnostic.erase_heading (escape_notMem_label s)]
  · rfl

theorem erase_write (h : c.Alike c') :
    erase (c.write call).stderr.toList = erase (c'.write call).stderr.toList := by
  cases call with
  | status s message => exact erase_status h s message
  | note message => exact erase_status h .info message
  | error message =>
    simp only [write, error, h.isJson]
    split
    · simp only [event, h.isJson]
    · exact erase_status h .error message
  | raw text => simp only [write, raw, h.isJson]
  | event j => simp only [write, event, h.isJson]

theorem erase_transcript (h : c.Alike c') :
    erase (c.transcript calls).stderr.toList = erase (c'.transcript calls).stderr.toList := by
  have hwhole (c : Console) : ∀ piece ∈ calls.map fun call ↦ (c.write call).stderr,
      Text.IsWhole piece := by
    intro piece hpiece
    obtain ⟨call, -, rfl⟩ := List.mem_map.1 hpiece
    exact isWhole_write call
  rw [stderr_transcript, stderr_transcript, Text.erase_join (hwhole c), Text.erase_join (hwhole c'),
    List.flatMap_map, List.flatMap_map]
  exact List.flatMap_congr fun call _ ↦ erase_write call h

theorem escapes_status (h : c.useColor = false) (s : Status) (message : String) :
    Text.escapes (c.status s message).stderr =
      if c.hears (.status s message) then Text.escapes message else 0 := by
  have hheading : Text.escapes (c.heading s) = 0 := by
    rw [heading, h]
    exact Text.escapes_eq_zero (escape_notMem_label s)
  have hblank : Text.escapes " " = 0 := by decide
  have hend : Text.escapes "\n" = 0 := by decide
  rw [status_eq]
  split
  · rw [Output.err, Text.escapes_append, Text.escapes_append, Text.escapes_append, hheading, hblank,
      hend, Nat.zero_add, Nat.add_zero]
  · rfl

theorem escapes_write (h : c.useColor = false) : Text.escapes (c.write call).stderr =
    if c.hears call then Text.escapes call.text else 0 := by
  cases call with
  | status s message => exact escapes_status h s message
  | note message => exact escapes_status h .info message
  | error message =>
    cases hjson : c.isJson with
    | true => simp [write, error, event, hears, hjson, Text.escapes]
    | false =>
      have herror : c.write (.error message) = c.status .error message := by
        simp [write, error, hjson]
      rw [herror, escapes_status h]
      rfl
  | raw text =>
    cases hjson : c.isJson with
    | true => simp [write, raw, hears, hjson, Text.escapes]
    | false =>
      have hheard : c.hears (.raw text) = true := by simp [hears, hjson, Call.isLoud]
      rw [if_pos hheard, write, raw, hjson, Bool.false_or]
      split
      case isTrue htext => rw [Call.text, beq_iff_eq.1 htext]
      case isFalse => exact Text.escapes_endLine text
  | event j =>
    have hstderr : (c.write (.event j)).stderr = "" := by
      change (c.event j).stderr = ""
      unfold event
      split <;> rfl
    rw [hstderr]
    split <;> rfl

theorem escapes_transcript (h : c.useColor = false) :
    Text.escapes (c.transcript calls).stderr =
      ((calls.filter c.hears).map fun call ↦ Text.escapes call.text).sum := by
  induction calls with
  | nil => rfl
  | cons call calls ih =>
    rw [transcript_cons, Output.stderr_append, Text.escapes_append, ih, escapes_write call h,
      List.filter_cons]
    split
    · rw [List.map_cons, List.sum_cons]
    · exact Nat.zero_add _

theorem alike_human (terminal terminal' : Bool) (color color' : ColorChoice)
    (verbosity : Verbosity) :
    (human terminal color verbosity).Alike (human terminal' color' verbosity) := by
  cases verbosity <;> exact ⟨rfl, rfl⟩

theorem erase_heading (s : Status) :
    erase (c.heading s).toList = (Text.padLeft 12 s.label).toList := by
  have hheading := Diagnostic.erase_heading (escape_notMem_label s) c.useColor s.colour []
  rwa [List.append_nil, Text.erase_nil, List.append_nil] at hheading

theorem length_label (s : Status) : (Text.padLeft 12 s.label).toList.length = 12 := by
  cases s <;> decide

/-- Colour only decorates. With its sequences erased, a diagnostic and all that a console writes for
people are the same in colour and without, the column of the statuses included; and without colour
no sequence begins that was not in the texts to be written. -/
theorem colour_decorates :
    (∀ d : Diagnostic, erase (d.format true).toList = erase (d.format false).toList ∧
        Text.escapes (d.format false) = d.escapesGiven) ∧
      (∀ terminal terminal' color color' verbosity calls,
        erase ((human terminal color verbosity).transcript calls).stderr.toList =
          erase ((human terminal' color' verbosity).transcript calls).stderr.toList) ∧
      (∀ (c : Console) s, erase (c.heading s).toList = (Text.padLeft 12 s.label).toList ∧
        (erase (c.heading s).toList).length = 12) ∧
      ∀ (c : Console) calls,
        Text.escapes ({ c with useColor := false }.transcript calls).stderr =
          ((calls.filter c.hears).map fun call ↦ Text.escapes call.text).sum := by
  refine ⟨fun d ↦ ⟨d.erase_format true, d.escapes_format⟩, ?_, fun c s ↦ ?_, fun c calls ↦ ?_⟩
  · intro terminal terminal' color color' verbosity calls
    exact erase_transcript calls (alike_human terminal terminal' color color' verbosity)
  · rw [erase_heading]
    exact ⟨rfl, length_label s⟩
  · exact escapes_transcript calls rfl

end Console

end BuildMatrix
