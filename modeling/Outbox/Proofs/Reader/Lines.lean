import Outbox.Reader
import Outbox.Proofs.Text.Utf8

/-!
# Lines

The lines of an input are its pieces between line feeds, each without a carriage return at its end;
what is behind the last line feed is a line if it is not empty. A reader has them all, in order,
whatever the pieces are in which it reads the input (`cut_eq`, `cut_append`). With their line feeds
they are the input again, up to carriage returns and the last line feed (`flatten_lines`).
-/

set_option autoImplicit false

namespace Outbox.Reader

/-! ### The lines of an input -/

def withoutReturn (line : Bytes) : Bytes :=
  if line.getLast? = some carriageReturn then line.dropLast else line

def endedLines (input : Bytes) : List Bytes :=
  (input.splitOn lineFeed).dropLast.map withoutReturn

/-- What an input has behind its last line feed. -/
def openLine (input : Bytes) : Bytes :=
  (input.splitOn lineFeed).getLastD []

/-- The lines of an input that ends well. -/
def lines (input : Bytes) : List Bytes :=
  endedLines input ++ if openLine input = [] then [] else [openLine input]

/-- An input without the carriage returns that stand directly before a line feed. -/
def dropReturns : Bytes → Bytes
  | [] => []
  | b :: rest =>
    if b = carriageReturn ∧ rest.head? = some lineFeed then dropReturns rest
    else b :: dropReturns rest

section Lines

variable {body rest input front : Bytes}

theorem splitOn_unended (h : lineFeed ∉ body) : body.splitOn lineFeed = [body] :=
  List.splitOn_eq_singleton h

theorem splitOn_line (h : lineFeed ∉ body) :
    (body ++ lineFeed :: rest).splitOn lineFeed = body :: rest.splitOn lineFeed := by
  rw [List.splitOn_append_cons_self, splitOn_unended h, List.singleton_append]

@[simp] theorem endedLines_unended (h : lineFeed ∉ body) : endedLines body = [] := by
  rw [endedLines, splitOn_unended h]
  rfl

@[simp] theorem openLine_unended (h : lineFeed ∉ body) : openLine body = body := by
  rw [openLine, splitOn_unended h]
  rfl

@[simp] theorem endedLines_line (h : lineFeed ∉ body) :
    endedLines (body ++ lineFeed :: rest) = withoutReturn body :: endedLines rest := by
  rw [endedLines, splitOn_line h, List.dropLast_cons_of_ne_nil (List.splitOn_ne_nil _ _)]
  rfl

@[simp] theorem openLine_line (h : lineFeed ∉ body) :
    openLine (body ++ lineFeed :: rest) = openLine rest := by
  rw [openLine, splitOn_line h, List.getLastD_cons, openLine]
  cases hrest : rest.splitOn lineFeed with
  | nil => exact absurd hrest (List.splitOn_ne_nil _ _)
  | cons piece pieces => rw [List.getLastD_cons, List.getLastD_cons]

theorem lines_unended (h : lineFeed ∉ body) : lines body = if body = [] then [] else [body] := by
  rw [lines, endedLines_unended h, openLine_unended h, List.nil_append]

theorem lines_line (h : lineFeed ∉ body) :
    lines (body ++ lineFeed :: rest) = withoutReturn body :: lines rest := by
  rw [lines, endedLines_line h, openLine_line h, List.cons_append, lines]

/-- What holds of an input without a line feed, and goes from an input to one with a line more in
front, holds of every input. -/
theorem lines_induction {motive : Bytes → Prop}
    (unended : ∀ body, lineFeed ∉ body → motive body)
    (line : ∀ body rest, lineFeed ∉ body → motive rest → motive (body ++ lineFeed :: rest))
    (input : Bytes) : motive input := by
  induction hn : input.length using Nat.strongRecOn generalizing input with
  | ind n ih =>
  by_cases hmem : lineFeed ∈ input
  · obtain ⟨body, rest, rfl, hbody⟩ := List.eq_append_cons_of_mem hmem
    refine line body rest hbody (ih rest.length ?_ rest rfl)
    rw [← hn, List.length_append, List.length_cons]
    omega
  · exact unended input hmem

/-! ### The input in other words -/

theorem dropReturns_unended (h : lineFeed ∉ body) : dropReturns body = body := by
  induction body with
  | nil => rfl
  | cons b body ih =>
    obtain ⟨hb, hbody⟩ := not_or.mp (List.mem_cons.not.mp h)
    have hhead : body.head? ≠ some lineFeed := fun hhead => hbody (List.mem_of_head? hhead)
    rw [dropReturns, if_neg fun hreturn => hhead hreturn.2, ih hbody]

theorem dropReturns_line (h : lineFeed ∉ body) :
    dropReturns (body ++ lineFeed :: rest) = withoutReturn body ++ lineFeed :: dropReturns rest := by
  induction body with
  | nil => rfl
  | cons b body ih =>
    obtain ⟨hb, hbody⟩ := not_or.mp (List.mem_cons.not.mp h)
    rw [List.cons_append, dropReturns, ih hbody]
    cases body with
    | nil =>
      by_cases hreturn : b = carriageReturn
      · subst hreturn
        rfl
      · simp [withoutReturn, hreturn]
    | cons c body =>
      have hc : c ≠ lineFeed := fun heq => hbody (heq ▸ List.mem_cons_self)
      rw [if_neg (by simp [hc])]
      simp only [withoutReturn, List.getLast?_cons_cons]
      split <;> rfl

theorem flatten_endedLines (input : Bytes) :
    ((endedLines input).map (· ++ [lineFeed])).flatten ++ openLine input = dropReturns input := by
  induction input using lines_induction with
  | unended body h => simp [h, dropReturns_unended h]
  | line body rest h ih =>
    rw [endedLines_line h, openLine_line h, dropReturns_line h, ← ih]
    simp

/-- An input has an open line if it does not end in a line feed. -/
theorem openLine_eq_nil_iff (input : Bytes) :
    openLine input = [] ↔ input = [] ∨ input.getLast? = some lineFeed := by
  induction input using lines_induction with
  | unended body h =>
    rw [openLine_unended h]
    have hlast : body.getLast? ≠ some lineFeed := fun hlast => h (List.mem_of_getLast? hlast)
    simp [hlast]
  | line body rest h ih =>
    rw [openLine_line h, ih]
    cases rest with
    | nil => simp
    | cons c rest => simp [List.getLast?_cons_cons]

theorem flatten_lines (input : Bytes) :
    ((lines input).map (· ++ [lineFeed])).flatten
      = dropReturns input ++
        if input = [] ∨ input.getLast? = some lineFeed then [] else [lineFeed] := by
  rw [lines, List.map_append, List.flatten_append]
  by_cases hopen : openLine input = []
  · rw [if_pos hopen, if_pos ((openLine_eq_nil_iff input).mp hopen), ← flatten_endedLines, hopen]
    simp
  · rw [if_neg hopen, if_neg (mt (openLine_eq_nil_iff input).mpr hopen), ← flatten_endedLines]
    simp

example : lines [97, 13, 10, 10, 98] = [[97], [], [98]] := by decide

theorem isText_of_mem_lines (text : Utf8.IsText input) : ∀ line ∈ lines input, Utf8.IsText line := by
  induction input using lines_induction with
  | unended body h =>
    intro line hline
    rw [lines_unended h] at hline
    split at hline
    · exact absurd hline List.not_mem_nil
    · exact List.mem_singleton.mp hline ▸ text
  | line body rest h ih =>
    obtain ⟨hbody, hrest⟩ := text.cut (by decide)
    intro line hline
    rw [lines_line h] at hline
    rcases List.mem_cons.mp hline with rfl | hline
    · rw [withoutReturn]
      split
      · next hlast =>
        obtain ⟨front, rfl⟩ := List.getLast?_eq_some_iff.mp hlast
        rw [List.dropLast_concat]
        exact (Utf8.IsText.cut (by decide) hbody).1
      · exact hbody
    · exact ih hrest line hline

end Lines

/-! ### Reading -/

section Cut

variable {unfinished body rest : Bytes} {found : List (Except IoError Bytes)}

theorem record_of_isText {line : Bytes} (text : Utf8.IsText line) :
    record line = .ok (line ++ [lineFeed]) := by
  obtain ⟨text, h⟩ := text
  rw [record, Utf8.decode_ok_iff.mpr h]

theorem record_of_not_isText {line : Bytes} (malformed : ¬ Utf8.IsText line) :
    ∃ cause, Utf8.decode line = .error cause ∧ record line = .error (.malformedLine cause) := by
  cases h : Utf8.decode line with
  | ok text => exact absurd ⟨text, Utf8.decode_ok_iff.mp h⟩ malformed
  | error cause => exact ⟨cause, rfl, by rw [record, h]⟩

theorem terminated_reverse (body : Bytes) :
    terminated body.reverse = record (withoutReturn body) := by
  rw [withoutReturn]
  cases h : body.reverse with
  | nil =>
    obtain rfl := List.reverse_eq_nil_iff.mp h
    rfl
  | cons last front =>
    obtain rfl : body = front.reverse ++ [last] := by
      rw [← List.reverse_reverse body, h, List.reverse_cons]
    simp [terminated]

theorem cut_unended (h : lineFeed ∉ body) :
    cut unfinished found (body ++ rest) = cut (body.reverse ++ unfinished) found rest := by
  induction body generalizing unfinished with
  | nil => rfl
  | cons b body ih =>
    obtain ⟨hb, hbody⟩ := not_or.mp (List.mem_cons.not.mp h)
    rw [List.cons_append, cut, if_neg (Ne.symm hb), ih hbody, List.reverse_cons, List.append_assoc]
    rfl

/-- An input read in one piece: its lines, and what is open. -/
theorem cut_eq (input : Bytes) (found : List (Except IoError Bytes)) :
    cut [] found input
      = ((openLine input).reverse, ((endedLines input).map record).reverse ++ found) := by
  induction input using lines_induction generalizing found with
  | unended body h =>
    have hcut : cut [] found (body ++ []) = cut (body.reverse ++ []) found [] := cut_unended h
    rw [List.append_nil, List.append_nil] at hcut
    rw [hcut, cut, openLine_unended h, endedLines_unended h]
    rfl
  | line body rest h ih =>
    rw [cut_unended h, cut, if_pos rfl, List.append_nil, terminated_reverse, ih, openLine_line h,
      endedLines_line h, List.map_cons, List.reverse_cons, List.append_assoc]
    rfl

/-- Reading a second piece goes on where the first one has left off. -/
theorem cut_append (front : Bytes) : cut unfinished found (front ++ rest)
    = cut (cut unfinished found front).1 (cut unfinished found front).2 rest := by
  induction front generalizing unfinished found with
  | nil => rfl
  | cons b front ih =>
    rw [List.cons_append, cut, cut]
    split <;> exact ih

theorem cut_found (input : Bytes) : cut unfinished found input
    = ((cut unfinished [] input).1, (cut unfinished [] input).2 ++ found) := by
  induction input generalizing unfinished found with
  | nil => rfl
  | cons b input ih =>
    rw [cut, cut]
    split
    · rw [ih, @ih _ [terminated unfinished], List.append_assoc]
      rfl
    · exact ih

/-- A reader that has read a part of the input and reads a piece more. -/
theorem feed_after {r : Reader} {seen : Bytes} (h : r.unfinished = (openLine seen).reverse)
    (piece : Bytes) :
    (r.feed piece).unfinished = (openLine (seen ++ piece)).reverse ∧
      ∃ more, (r.feed piece).ready = r.ready ++ more ∧
        (endedLines (seen ++ piece)).map record = (endedLines seen).map record ++ more := by
  have hcut := cut_eq (seen ++ piece) []
  rw [cut_append, cut_eq, cut_found, ← h, List.append_nil, List.append_nil, Prod.mk.injEq] at hcut
  refine ⟨hcut.1, _, rfl, ?_⟩
  rw [← List.reverse_inj, ← hcut.2, List.reverse_append, List.reverse_reverse]

end Cut

/-! ### What there is to forward -/

/-- The lines that are read of an input: if it fails, what is open then is lost. -/
def readLines (input : Bytes) (ending : Option IoError) : List Bytes :=
  match ending with
  | none => lines input
  | some _ => endedLines input

/-- All that a reader can have to forward of an input. -/
def items (input : Bytes) (ending : Option IoError) : List (Except IoError Bytes) :=
  (readLines input ending).map record ++ ending.toList.map .error

theorem endedLines_front (front rest : Bytes) : endedLines front <+: endedLines (front ++ rest) := by
  induction front using lines_induction with
  | unended body h =>
    rw [endedLines_unended h]
    exact ⟨_, rfl⟩
  | line body more h ih =>
    rw [List.append_assoc, List.cons_append, endedLines_line h, endedLines_line h]
    exact (List.prefix_cons_inj _).mpr ih

theorem endedLines_front_items (front rest : Bytes) (ending : Option IoError) :
    (endedLines front).map record <+: items (front ++ rest) ending := by
  have hended := (endedLines_front front rest).map record
  cases ending with
  | none =>
    rw [items, readLines, lines, List.map_append, List.append_assoc]
    exact hended.trans (List.prefix_append _ _)
  | some cause => exact hended.trans (List.prefix_append _ _)

end Outbox.Reader
