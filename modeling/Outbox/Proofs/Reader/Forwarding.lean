import Mathlib.Data.List.TakeWhile
import Outbox.Proofs.Reader.Transfer

/-!
# What is forwarded

Of an input whose lines are texts a transfer forwards every line with a line feed at its end, and
counts them. In front of a line that is not a text, and of a failure of the input, it forwards all
lines and fails with that cause; and if the channel is closed before, it counts what was accepted
(`forwarded_faithfully`). Nothing of this depends on the pieces in which the input comes, on how much
the channel holds, or on when records are taken.
-/

set_option autoImplicit false

namespace Outbox

namespace Reader

/-- The lines in front of the first one that is not a text. -/
def readable (input : Bytes) (ending : Option IoError) : List Bytes :=
  (readLines input ending).takeWhile fun line => Utf8.IsText line

/-- A line as it is forwarded. -/
def closeLine (line : Bytes) : Bytes :=
  line ++ [lineFeed]

/-- What is behind the lines that can be forwarded: nothing, the failure of the input, or a line that
is not a text. -/
inductive Bar (input : Bytes) (ending : Option IoError) : List (Except IoError Bytes) → Prop
  | none : readable input ending = readLines input ending → ending = none → Bar input ending []
  | failure {cause : IoError} : readable input ending = readLines input ending →
    ending = some cause → Bar input ending [.error cause]
  | malformed {bad : Bytes} {cause : Utf8.Malformed} {more : List (Except IoError Bytes)} :
    (readLines input ending)[(readable input ending).length]? = some bad →
    Utf8.decode bad = .error cause → Bar input ending (.error (.malformedLine cause) :: more)

section Items

variable {input : Bytes} {ending : Option IoError} {sent records : List Bytes}
  {more bar : List (Except IoError Bytes)}

theorem items_eq (input : Bytes) (ending : Option IoError) :
    ∃ bar, items input ending = ((readable input ending).map closeLine).map .ok ++ bar ∧
      Bar input ending bar := by
  have hsplit : readLines input ending = readable input ending ++
      (readLines input ending).dropWhile fun line => Utf8.IsText line :=
    (List.takeWhile_append_dropWhile).symm
  have hreadable : (readable input ending).map record
      = ((readable input ending).map closeLine).map .ok := by
    rw [List.map_map]
    refine List.map_congr_left fun line hline => ?_
    exact record_of_isText (of_decide_eq_true (List.all_eq_true.mp List.all_takeWhile line hline))
  rw [items, hsplit, List.map_append, hreadable, List.append_assoc]
  refine ⟨_, rfl, ?_⟩
  cases hdrop : (readLines input ending).dropWhile fun line => Utf8.IsText line with
  | nil =>
    rw [hdrop, List.append_nil] at hsplit
    cases hending : ending with
    | none => exact .none (hending ▸ hsplit.symm) rfl
    | some cause => exact .failure (hending ▸ hsplit.symm) rfl
  | cons bad after =>
    have hbad := List.head_dropWhile_not (fun line => decide (Utf8.IsText line))
      (show (readLines input ending).dropWhile (fun line => Utf8.IsText line) ≠ [] by simp [hdrop])
    simp only [hdrop, List.head_cons, decide_eq_false_iff_not] at hbad
    obtain ⟨cause, hdecode, hrecord⟩ := record_of_not_isText hbad
    rw [List.map_cons, List.cons_append, hrecord]
    refine .malformed ?_ hdecode
    rw [hsplit, hdrop, List.getElem?_append_right (Nat.le_refl _), Nat.sub_self]
    rfl

theorem Bar.not_ok (h : Bar input ending bar) (record : Bytes)
    (rest : List (Except IoError Bytes)) : bar ≠ .ok record :: rest := by
  rintro rfl
  cases h

theorem Bar.ending_eq {cause : IoError} (h : Bar input ending (.error cause :: more))
    (texts : readable input ending = readLines input ending) : ending = some cause := by
  cases h with
  | failure _ ill => exact ill
  | malformed hbad _ =>
    rw [texts, List.getElem?_eq_none (Nat.le_refl _)] at hbad
    exact absurd hbad (by simp)

/-- What is sent of some records and what comes next, up to a bar: all records and the bar, or fewer
and a record. -/
theorem sent_cases (barred : ∀ record rest, bar ≠ .ok record :: rest)
    (h : sent.map Except.ok ++ more <+: records.map Except.ok ++ bar) :
    (sent = records ∧ more <+: bar) ∨
      (sent <+: records ∧ sent.length < records.length ∧
        (more = [] ∨ ∃ record rest, more = .ok record :: rest)) := by
  induction records generalizing sent with
  | nil =>
    cases sent with
    | nil => exact .inl ⟨rfl, h⟩
    | cons first sent =>
      cases bar with
      | nil => exact absurd (List.prefix_nil.mp h) (by simp)
      | cons next bar => exact absurd ((List.cons_prefix_cons.mp h).1 ▸ rfl) (barred first bar)
  | cons record records ih =>
    cases sent with
    | nil =>
      refine .inr ⟨⟨_, rfl⟩, by simp, ?_⟩
      cases more with
      | nil => exact .inl rfl
      | cons next more => exact .inr ⟨record, more, by rw [(List.cons_prefix_cons.mp h).1]⟩
    | cons first sent =>
      obtain ⟨hfirst, hrest⟩ := List.cons_prefix_cons.mp h
      obtain rfl := Except.ok.inj hfirst
      rcases ih hrest with ⟨rfl, hmore⟩ | ⟨hsent, hless, hmore⟩
      · exact .inl ⟨rfl, hmore⟩
      · exact .inr ⟨(List.prefix_cons_inj _).mpr hsent, by simpa using hless, hmore⟩

theorem readable_of_texts (h : ∀ line ∈ readLines input ending, Utf8.IsText line) :
    readable input ending = readLines input ending :=
  List.takeWhile_eq_self_iff.mpr fun line hline => decide_eq_true (h line hline)

theorem readable_of_malformed {k : Nat} {bad : Bytes}
    (hbad : (readLines input ending)[k]? = some bad) (malformed : ¬ Utf8.IsText bad)
    (texts : ∀ line ∈ (readLines input ending).take k, Utf8.IsText line) :
    readable input ending = (readLines input ending).take k := by
  obtain ⟨hk, rfl⟩ := List.getElem?_eq_some_iff.mp hbad
  rw [readable]
  conv_lhs => rw [← List.take_append_drop k (readLines input ending), List.drop_eq_getElem_cons hk]
  rw [List.takeWhile_append_of_pos fun line hline => decide_eq_true (texts line hline),
    List.takeWhile_cons_of_neg (by simpa using malformed), List.append_nil]

end Items

end Reader

namespace Transfer

open Reader (readLines readable closeLine lines endedLines dropReturns lineFeed)

variable {input seen : Bytes} {ending : Option IoError} {t : Transfer} {result : Except IoError Nat}

/-- How a reader finishes: behind the last line, in front of what bars its way, or because a record
was refused. -/
theorem Accords.outcome (h : Accords input ending seen t)
    (finished : t.reader.result = some result) :
    (t.accepted = (readable input ending).map closeLine ∧
      readable input ending = readLines input ending ∧ ending = none ∧
      result = .ok t.accepted.length) ∨
    (∃ cause more, t.accepted = (readable input ending).map closeLine ∧
      Reader.Bar input ending (.error cause :: more) ∧ result = .error cause) ∨
    (t.channel.closed = true ∧ t.accepted.length < (readable input ending).length ∧
      result = .ok t.accepted.length) := by
  obtain ⟨bar, hitems, hbar⟩ := Reader.items_eq input ending
  have hcases := Reader.sent_cases hbar.not_ok (hitems ▸ h.items_front)
  cases h.finishes finished with
  | ends hended hready =>
    have hall := (h.ended hended).2
    rw [hready, List.append_nil, hitems] at hall
    rcases hcases with ⟨hsent, -⟩ | ⟨-, hless, -⟩
    · obtain rfl : bar = [] := by simpa [hsent] using hall
      cases hbar with
      | none htexts hwell => exact .inl ⟨hsent, htexts, hwell, rfl⟩
    · have hlength := congrArg List.length hall
      simp only [List.length_append, List.length_map] at hlength hless
      omega
  | @fails cause rest hready =>
    rcases hcases with ⟨hsent, hmore⟩ | ⟨-, -, hnil | ⟨record, rest', hok⟩⟩
    · rw [hready] at hmore
      obtain ⟨more, rfl⟩ := hmore
      exact .inr (.inl ⟨cause, rest ++ more, hsent, hbar, rfl⟩)
    · exact absurd (hready.symm.trans hnil) (by simp)
    · exact absurd (hready.symm.trans hok) (by simp)
  | @refused record rest hready hclosed =>
    rcases hcases with ⟨-, hmore⟩ | ⟨-, hless, -⟩
    · rw [hready] at hmore
      obtain ⟨more, rfl⟩ := hmore
      exact absurd rfl (hbar.not_ok record (rest ++ more))
    · rw [List.length_map] at hless
      exact .inr (.inr ⟨hclosed, hless, rfl⟩)

/-- What a transfer has come to, by the lines of its input. -/
structure Faithful (input : Bytes) (ending : Option IoError) (t : Transfer) : Prop where
  /-- The channel has accepted the first lines, in order, and they have been counted. -/
  inOrder : t.accepted <+: (readable input ending).map closeLine
  counted : t.reader.forwarded = t.accepted.length
  kept : t.channel.closed = false → t.accepted = t.taken ++ t.channel.queue
  /-- A text that ends well is forwarded as a whole. -/
  whole : Utf8.IsText input → ending = none → t.channel.closed = false →
    ∀ result, t.reader.result = some result →
      t.accepted = (lines input).map closeLine ∧
      t.accepted.flatten = dropReturns input ++
        (if input = [] ∨ input.getLast? = some lineFeed then [] else [lineFeed]) ∧
      result = .ok (lines input).length
  /-- A line that is not a text ends the forwarding. -/
  malformed : ∀ k bad, (readLines input ending)[k]? = some bad → ¬ Utf8.IsText bad →
    (∀ line ∈ (readLines input ending).take k, Utf8.IsText line) → t.channel.closed = false →
    ∀ result, t.reader.result = some result →
      t.accepted = ((readLines input ending).take k).map closeLine ∧
      ∃ cause, Utf8.decode bad = .error cause ∧ result = .error (.malformedLine cause)
  failed : ∀ cause, ending = some cause → (∀ line ∈ endedLines input, Utf8.IsText line) →
    t.channel.closed = false → ∀ result, t.reader.result = some result →
      t.accepted = (endedLines input).map closeLine ∧ result = .error cause
  /-- Closed or not, a reader counts what was accepted unless something has barred its way. -/
  finished : ∀ result, t.reader.result = some result →
    (result = .ok t.accepted.length ↔ t.accepted.length < (readable input ending).length ∨
      (readable input ending = readLines input ending ∧ ending = none))

theorem Accords.inOrder (h : Accords input ending seen t) :
    t.accepted <+: (readable input ending).map closeLine := by
  obtain ⟨bar, hitems, hbar⟩ := Reader.items_eq input ending
  rcases Reader.sent_cases hbar.not_ok (hitems ▸ h.items_front) with ⟨hsent, -⟩ | ⟨hsent, -⟩
  · exact hsent ▸ List.prefix_rfl
  · exact hsent

theorem Accords.texts (h : Accords input ending seen t) (finished : t.reader.result = some result)
    (unclosed : t.channel.closed = false)
    (texts : ∀ line ∈ readLines input ending, Utf8.IsText line) :
    t.accepted = (readLines input ending).map closeLine ∧
      result = match ending with
        | none => .ok (readLines input ending).length
        | some cause => .error cause := by
  have hreadable := Reader.readable_of_texts texts
  rcases h.outcome finished with ⟨hsent, -, hwell, hok⟩ | ⟨cause, more, hsent, hbar, herror⟩ |
    ⟨hclosed, -⟩
  · rw [hreadable] at hsent
    subst hwell
    rw [hok, hsent, List.length_map]
    exact ⟨rfl, rfl⟩
  · rw [hreadable] at hsent
    obtain rfl := hbar.ending_eq hreadable
    exact ⟨hsent, herror⟩
  · exact absurd (unclosed.symm.trans hclosed) Bool.noConfusion

theorem Accords.faithful (h : Accords input ending seen t) : t.Faithful input ending where
  inOrder := h.inOrder
  counted := h.counted
  kept := by
    intro unclosed
    rcases h.held with hlost | ⟨hclosed, -⟩
    · rw [accepted, hlost, List.append_nil]
    · exact absurd (unclosed.symm.trans hclosed) Bool.noConfusion
  whole := by
    rintro text rfl unclosed result finished
    obtain ⟨hsent, hok⟩ := h.texts finished unclosed (Reader.isText_of_mem_lines text)
    refine ⟨hsent, ?_, hok⟩
    rw [hsent]
    exact Reader.flatten_lines input
  malformed := by
    intro k bad hbad malformed texts unclosed result finished
    have hreadable := Reader.readable_of_malformed hbad malformed texts
    have hk := (List.getElem?_eq_some_iff.mp hbad).1
    have hlength : ((readLines input ending).take k).length = k := List.length_take_of_le hk.le
    rcases h.outcome finished with ⟨-, hall, -⟩ | ⟨cause, more, hsent, hbar, herror⟩ | ⟨hclosed, -⟩
    · rw [hreadable] at hall
      rw [hall] at hlength
      omega
    · rw [hreadable] at hsent
      refine ⟨hsent, ?_⟩
      cases hbar with
      | failure hall _ =>
        rw [hreadable] at hall
        rw [hall] at hlength
        omega
      | malformed hbad' hdecode =>
        rw [hreadable, hlength, hbad, Option.some.injEq] at hbad'
        subst hbad'
        exact ⟨_, hdecode, herror⟩
    · exact absurd (unclosed.symm.trans hclosed) Bool.noConfusion
  failed := by
    rintro cause rfl texts unclosed result finished
    exact h.texts finished unclosed texts
  finished := by
    intro result finished
    rcases h.outcome finished with ⟨hsent, hall, hwell, hok⟩ | ⟨cause, more, hsent, hbar, herror⟩ |
      ⟨hclosed, hless, hok⟩
    · exact ⟨fun _ => .inr ⟨hall, hwell⟩, fun _ => hok⟩
    · have hlength := congrArg List.length hsent
      rw [List.length_map] at hlength
      constructor
      · intro hok
        exact absurd (herror.symm.trans hok) (by simp)
      · rintro (hless | ⟨hall, rfl⟩)
        · exact absurd hlength hless.ne
        · exact absurd (hbar.ending_eq hall) (by simp)
    · exact ⟨fun _ => .inl hless, fun _ => hok⟩

/-- However an input is cut, however much the channel holds, and whenever records are taken or the
channel is closed: what is forwarded is what the lines of the input say. The reader finishes unless
it is left waiting for room, and there is a bound on what can happen until then. -/
theorem forwarded_faithfully {pieces : List Bytes} {capacity n : Nat}
    (room : Channel.isCapacity capacity = true) (run : Run n (start pieces ending capacity) t) :
    t.Faithful pieces.flatten ending ∧ (t.Rests → t.reader.result.isSome = true) ∧
      n ≤ pieces.length + 2 * (readLines pieces.flatten ending).length + 5 := by
  have hstart := accords_start pieces ending capacity
  obtain ⟨seen, h⟩ := hstart.run run
  refine ⟨h.faithful, fun rests => rests.finished ?_, ?_⟩
  · rw [capacity_of_run run]
    simp only [Channel.isCapacity, Bool.and_eq_true, decide_eq_true_eq] at room
    exact room.1
  · have hbound := hstart.run_potential run
    have hitems : (Reader.items pieces.flatten ending).length
        ≤ (readLines pieces.flatten ending).length + 1 := by
      rw [Reader.items, List.length_append, List.length_map, List.length_map]
      cases ending <;> simp
    have hpotential : (start pieces ending capacity).potential
        (Reader.items pieces.flatten ending).length
          = pieces.length + 3 + 2 * (Reader.items pieces.flatten ending).length := by
      simp [potential, start, Reader.start, Channel.ofCapacity, accepted]
    omega

/-- Two lines, cut inside the first line end, through a channel that holds one record. -/
theorem forwarded_in_two_pieces :
    ∃ t, Run 8 (start [[97, 13], [10, 98]] none 1) t ∧ t.taken = [[97, 10], [98, 10]] ∧
      t.reader.result = some (.ok 2) ∧ t.Faithful [97, 13, 10, 98] none := by
  have sends : ∀ {r r' : Reader} {c c' : Channel}, r.forwarded ≠ r'.forwarded → (r, c) ≠ (r', c') :=
    fun ne heq => ne (congrArg (·.1.forwarded) heq)
  have ends : ∀ {r r' : Reader} {c c' : Channel}, c.finished ≠ c'.finished → (r, c) ≠ (r', c') :=
    fun ne heq => ne (congrArg (·.2.finished) heq)
  obtain ⟨t, run, htaken, hresult⟩ : ∃ t, Run 8 (start [[97, 13], [10, 98]] none 1) t ∧
      t.taken = [[97, 10], [98, 10]] ∧ t.reader.result = some (.ok 2) := by
    refine ⟨_, .tail (.tail (.tail (.tail (.tail (.tail (.tail (.tail .refl (.work (.read rfl rfl)))
      (.work (.read rfl rfl))) (.work (.finish rfl rfl rfl rfl))) (.work (.step (sends ?_))))
      (.take rfl)) (.work (.step (sends ?_)))) (.take rfl)) (.work (.step (ends ?_))), rfl, rfl⟩
    · decide
    · decide
    · decide
  exact ⟨t, run, htaken, hresult, (forwarded_faithfully (by decide) run).1⟩

end Transfer

end Outbox
