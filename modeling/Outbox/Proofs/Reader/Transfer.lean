import Mathlib.Tactic.ByContra
import Outbox.Proofs.Reader.Lines

/-!
# From an input to whoever takes the records

A transfer is a reader with the pieces of its input that it has not read, and the channel with what
has been taken from it. The reader reads and forwards whenever it can, and may read ahead; records
are taken at any pace, and the channel may be closed or dropped at any time. In whatever order this
happens, what the channel has accepted are the first lines of the input (`Transfer.Accords`), the
reader is never stuck while records are taken (`Transfer.Rests.finished`), and every run has an end
(`Transfer.Accords.potential_lt`).
-/

set_option autoImplicit false

namespace Outbox

/-- A reader, its input, and what has become of the records. -/
structure Transfer where
  reader : Reader
  channel : Channel
  unread : List Bytes
  /-- Why the input fails after its last piece; it ends well if there is no cause. -/
  ending : Option IoError
  taken : List Bytes
  lost : List Bytes

namespace Channel

theorem take?_some {c c' : Channel} {record : Bytes} (h : c.take? = some (record, c')) :
    c.queue = record :: c'.queue ∧ c' = { c with queue := c'.queue } := by
  rw [take?] at h
  split at h
  · exact absurd h (by simp)
  · next queued rest hqueue =>
    simp only [Option.some.injEq, Prod.mk.injEq] at h
    obtain ⟨rfl, rfl⟩ := h
    exact ⟨hqueue, rfl⟩

end Channel

namespace Reader

/-- Why a step of a reader is idle. -/
inductive Waits (r : Reader) (c : Channel) : Prop
  | finished : r.result.isSome = true → Waits r c
  | forInput : r.ready = [] → r.ended = false → Waits r c
  | forRoom : c.closed = false → c.capacity ≤ c.queue.length → Waits r c

/-- What a step of a reader that is not idle comes to. -/
inductive Advances (r : Reader) (c : Channel) : Reader × Channel → Prop
  | ends : r.result = none → r.ready = [] → r.ended = true →
    Advances r c ({ r with result := some (.ok r.forwarded) }, c.finish)
  | fails {cause : IoError} {rest : List (Except IoError Bytes)} : r.result = none →
    r.ready = .error cause :: rest →
    Advances r c ({ r with result := some (.error cause) }, c.finish)
  | sends {record : Bytes} {rest : List (Except IoError Bytes)} : r.result = none →
    r.ready = .ok record :: rest → c.closed = false →
    Advances r c ({ r with ready := rest, forwarded := r.forwarded + 1 },
      { c with queue := c.queue ++ [record] })
  | refused {record : Bytes} {rest : List (Except IoError Bytes)} : r.result = none →
    r.ready = .ok record :: rest → c.closed = true →
    Advances r c ({ r with result := some (.ok r.forwarded) }, c.finish)

theorem step_cases (r : Reader) (c : Channel) :
    (r.step c = (r, c) ∧ r.Waits c) ∨ r.Advances c (r.step c) := by
  rw [step]
  split
  · next h => exact .inl ⟨rfl, .finished h⟩
  next h =>
  have running : r.result = none := by simpa using h
  split
  · next hready =>
    split
    · next hended => exact .inr (.ends running hready hended)
    · next hended => exact .inl ⟨rfl, .forInput hready (by simpa using hended)⟩
  · next cause rest hready => exact .inr (.fails running hready)
  · next record rest hready =>
    rw [Channel.offer]
    by_cases hclosed : c.closed = true
    · rw [if_pos hclosed]
      exact .inr (.refused running hready hclosed)
    · rw [if_neg hclosed]
      have hopen : c.closed = false := by simpa using hclosed
      by_cases hroom : c.queue.length < c.capacity
      · rw [if_pos hroom]
        exact .inr (.sends running hready hopen)
      · rw [if_neg hroom]
        exact .inl ⟨rfl, .forRoom hopen (by omega)⟩

theorem advances_of_busy {r : Reader} {c : Channel} (busy : r.step c ≠ (r, c)) :
    r.Advances c (r.step c) :=
  (step_cases r c).resolve_left fun idle => busy idle.1

theorem Advances.busy {r : Reader} {c : Channel} {after : Reader × Channel}
    (h : r.Advances c after) :
    after ≠ (r, c) := by
  have changed : ∀ {result : Except IoError Nat} {c' : Channel}, r.result = none →
      (({ r with result := some result }, c') : Reader × Channel) ≠ (r, c) :=
    fun running heq => absurd (running.symm.trans (congrArg (·.1.result) heq).symm) (by simp)
  cases h with
  | ends running _ _ => exact changed running
  | fails running _ => exact changed running
  | sends _ _ _ => exact fun heq => absurd (congrArg (·.1.forwarded) heq) (by simp)
  | refused running _ _ => exact changed running

theorem step_of_finished {r : Reader} (finished : r.result.isSome = true) (c : Channel) :
    r.step c = (r, c) := by
  rw [step, if_pos finished]

theorem steps_of_idle {r : Reader} {c : Channel} (idle : r.step c = (r, c)) (n : Nat) :
    r.steps n c = (r, c) := by
  induction n with
  | zero => rfl
  | succ n ih =>
    rw [steps, idle]
    exact ih

theorem room_of_busy {r : Reader} {c : Channel} {record : Bytes}
    {rest : List (Except IoError Bytes)} (busy : r.step c ≠ (r, c))
    (ready : r.ready = .ok record :: rest) (unclosed : c.closed = false) :
    c.queue.length < c.capacity := by
  by_contra full
  refine busy ?_
  rw [step]
  split
  · rfl
  · simp [ready, Channel.offer, unclosed, full]

/-- After one step more than there are records and room for them, a reader has nothing to do. -/
theorem steps_idle {r : Reader} {c : Channel} {n : Nat}
    (enough : min r.ready.length (c.capacity - c.queue.length) < n) :
    (r.steps n c).1.step (r.steps n c).2 = r.steps n c := by
  induction n generalizing r c with
  | zero => exact absurd enough (Nat.not_lt_zero _)
  | succ n ih =>
    rcases step_cases r c with ⟨idle, -⟩ | advances
    · rw [steps_of_idle idle]
      exact idle
    have room : ∀ record rest, r.ready = .ok record :: rest → c.closed = false →
        c.queue.length < c.capacity := fun _ _ => room_of_busy advances.busy
    rw [steps]
    generalize r.step c = after at advances
    have done : ∀ {r' : Reader} {c' : Channel}, r'.result.isSome = true →
        (r'.steps n c').1.step (r'.steps n c').2 = r'.steps n c' := by
      intro r' c' finished
      have idle := step_of_finished finished c'
      rw [steps_of_idle idle]
      exact idle
    cases advances with
    | ends _ _ _ => exact done rfl
    | fails _ _ => exact done rfl
    | refused _ _ _ => exact done rfl
    | sends _ ready unclosed =>
      have hroom := room _ _ ready unclosed
      refine ih ?_
      rw [ready, List.length_cons] at enough
      simp only [List.length_append, List.length_singleton]
      omega

theorem step_length (r : Reader) (c : Channel) :
    (r.step c).1.ready.length + (r.step c).2.queue.length = r.ready.length + c.queue.length := by
  rcases step_cases r c with ⟨idle, -⟩ | advances
  · rw [idle]
  generalize r.step c = after at advances
  cases advances with
  | ends _ _ _ => rfl
  | fails _ _ => rfl
  | refused _ _ _ => rfl
  | sends _ ready _ =>
    simp only [ready, List.length_append, List.length_cons, List.length_nil]
    omega

theorem steps_length (n : Nat) (r : Reader) (c : Channel) :
    (r.steps n c).1.ready.length + (r.steps n c).2.queue.length
      = r.ready.length + c.queue.length := by
  induction n generalizing r c with
  | zero => rfl
  | succ n ih =>
    rw [steps]
    exact (ih _ _).trans (step_length r c)

theorem run_length (r : Reader) (c : Channel) :
    (r.run c).1.ready.length + (r.run c).2.queue.length = r.ready.length + c.queue.length :=
  steps_length _ r c

/-- To go on as far as there is room leaves a reader with nothing to do. -/
theorem run_idle (r : Reader) (c : Channel) : (r.run c).1.step (r.run c).2 = r.run c :=
  steps_idle (Nat.lt_succ_self _)

end Reader

namespace Transfer

/-- The transfer of an input before anything of it has been read. -/
def start (pieces : List Bytes) (ending : Option IoError) (capacity : Nat) : Transfer :=
  { reader := .start, channel := .ofCapacity capacity, unread := pieces, ending, taken := []
    lost := [] }

/-- What the reader does: it reads a piece or the end of its input, or makes a step with the
channel that is not idle. -/
inductive Works : Transfer → Transfer → Prop
  | read {t : Transfer} {piece : Bytes} {rest : List Bytes} : t.reader.result = none →
    t.unread = piece :: rest →
    Works t { t with reader := t.reader.feed piece, unread := rest }
  | finish {t : Transfer} : t.reader.result = none → t.unread = [] → t.reader.ended = false →
    t.ending = none → Works t { t with reader := t.reader.finish }
  | fail {t : Transfer} {cause : IoError} : t.reader.result = none → t.unread = [] →
    t.reader.ended = false → t.ending = some cause →
    Works t { t with reader := t.reader.fail cause }
  | step {t : Transfer} : t.reader.step t.channel ≠ (t.reader, t.channel) →
    Works t { t with
      reader := (t.reader.step t.channel).1, channel := (t.reader.step t.channel).2 }

/-- One step of a transfer: the reader does something, a record is taken, or the channel is closed
or dropped. -/
inductive Step : Transfer → Transfer → Prop
  | work {t t' : Transfer} : Works t t' → Step t t'
  | take {t : Transfer} {record : Bytes} {channel : Channel} :
    t.channel.take? = some (record, channel) →
    Step t { t with channel, taken := t.taken ++ [record] }
  | close {t : Transfer} : t.channel.closed = false → Step t { t with channel := t.channel.close }
  | drop {t : Transfer} : t.channel.closed = false ∨ t.channel.queue ≠ [] →
    Step t { t with channel := t.channel.drop, lost := t.lost ++ t.channel.queue }

inductive Run : Nat → Transfer → Transfer → Prop
  | refl {t : Transfer} : Run 0 t t
  | tail {n : Nat} {t t' t'' : Transfer} : Run n t t' → Step t' t'' → Run (n + 1) t t''

def accepted (t : Transfer) : List Bytes :=
  t.taken ++ t.lost ++ t.channel.queue

/-- How a reader finishes: at the end of its input, at a failure, or at a record that was refused. -/
inductive Finishes (t : Transfer) : Except IoError Nat → Prop
  | ends : t.reader.ended = true → t.reader.ready = [] → Finishes t (.ok t.accepted.length)
  | fails {cause : IoError} {rest : List (Except IoError Bytes)} :
    t.reader.ready = .error cause :: rest → Finishes t (.error cause)
  | refused {record : Bytes} {rest : List (Except IoError Bytes)} :
    t.reader.ready = .ok record :: rest → t.channel.closed = true →
    Finishes t (.ok t.accepted.length)

/-- What holds of a transfer when a part of its input has been read. -/
structure Accords (input : Bytes) (ending : Option IoError) (seen : Bytes) (t : Transfer) :
    Prop where
  ending_eq : t.ending = ending
  input_eq : input = seen ++ t.unread.flatten
  /-- What was accepted and what is ready are all that has been read. -/
  reading : t.reader.ended = false → t.reader.unfinished = (Reader.openLine seen).reverse ∧
    t.accepted.map .ok ++ t.reader.ready = (Reader.endedLines seen).map Reader.record
  ended : t.reader.ended = true →
    t.unread = [] ∧ t.accepted.map .ok ++ t.reader.ready = Reader.items input ending
  counted : t.reader.forwarded = t.accepted.length
  held : t.lost = [] ∨ t.channel.closed = true ∧ t.channel.queue = []
  finishes : ∀ {result : Except IoError Nat}, t.reader.result = some result → t.Finishes result

section Accords

variable {input seen : Bytes} {ending : Option IoError} {t t' : Transfer}

theorem Accords.advance {reader : Reader} {unread : List Bytes} {seen' : Bytes}
    (h : Accords input ending seen t) (running : reader.result = none)
    (counted : reader.forwarded = t.reader.forwarded) (input_eq : input = seen' ++ unread.flatten)
    (reading : reader.ended = false → reader.unfinished = (Reader.openLine seen').reverse ∧
      t.accepted.map .ok ++ reader.ready = (Reader.endedLines seen').map Reader.record)
    (ended : reader.ended = true →
      unread = [] ∧ t.accepted.map .ok ++ reader.ready = Reader.items input ending) :
    Accords input ending seen' { t with reader, unread } where
  ending_eq := h.ending_eq
  input_eq := input_eq
  reading := reading
  ended := ended
  counted := counted.trans h.counted
  held := h.held
  finishes := fun hresult => absurd (running.symm.trans hresult) (by simp)

theorem Accords.read {piece : Bytes} {rest : List Bytes} (h : Accords input ending seen t)
    (running : t.reader.result = none) (unread : t.unread = piece :: rest) :
    Accords input ending (seen ++ piece)
      { t with reader := t.reader.feed piece, unread := rest } := by
  have hended : t.reader.ended = false := by
    cases hended : t.reader.ended with
    | false => rfl
    | true => exact absurd (unread.symm.trans (h.ended hended).1) (by simp)
  obtain ⟨hopen, hready⟩ := h.reading hended
  obtain ⟨hopen', more, hmore, hlines⟩ := Reader.feed_after hopen piece
  refine h.advance running rfl ?_ (fun _ => ⟨hopen', ?_⟩)
    fun hended' => absurd (hended.symm.trans hended') Bool.noConfusion
  · rw [h.input_eq, unread, List.flatten_cons, List.append_assoc]
  · rw [hlines, ← hready, hmore, List.append_assoc]

theorem Accords.finish (h : Accords input ending seen t) (running : t.reader.result = none)
    (unread : t.unread = []) (hended : t.reader.ended = false) (well : t.ending = none) :
    Accords input ending seen { t with reader := t.reader.finish } := by
  obtain ⟨hopen, hready⟩ := h.reading hended
  have hseen : input = seen := by rw [h.input_eq, unread, List.flatten_nil, List.append_nil]
  refine h.advance running rfl h.input_eq (fun hended' => absurd hended' Bool.noConfusion)
    fun _ => ⟨unread, ?_⟩
  rw [← h.ending_eq, well, hseen, Reader.items, Reader.readLines, Reader.lines, List.map_append,
    ← hready, Reader.finish, hopen, List.reverse_reverse]
  by_cases hnil : Reader.openLine seen = []
  · simp [hnil]
  · simp [hnil]

theorem Accords.fail {cause : IoError} (h : Accords input ending seen t)
    (running : t.reader.result = none) (unread : t.unread = []) (hended : t.reader.ended = false)
    (ill : t.ending = some cause) :
    Accords input ending seen { t with reader := t.reader.fail cause } := by
  obtain ⟨-, hready⟩ := h.reading hended
  have hseen : input = seen := by rw [h.input_eq, unread, List.flatten_nil, List.append_nil]
  refine h.advance running rfl h.input_eq (fun hended' => absurd hended' Bool.noConfusion)
    fun _ => ⟨unread, ?_⟩
  rw [← h.ending_eq, ill, hseen, Reader.items, Reader.readLines, ← hready, Reader.fail,
    List.append_assoc]
  rfl

theorem Accords.stop {result : Except IoError Nat} (h : Accords input ending seen t)
    (finishes : t.Finishes result) :
    Accords input ending seen
      { t with reader := { t.reader with result := some result }, channel := t.channel.finish } where
  ending_eq := h.ending_eq
  input_eq := h.input_eq
  reading := h.reading
  ended := h.ended
  counted := h.counted
  held := h.held
  finishes := by
    intro result' hresult
    obtain rfl := Option.some.inj hresult
    cases finishes with
    | ends hended hready => exact .ends hended hready
    | fails hready => exact .fails hready
    | refused hready hclosed => exact .refused hready hclosed

theorem Accords.forward {record : Bytes} {rest : List (Except IoError Bytes)}
    (h : Accords input ending seen t) (running : t.reader.result = none)
    (ready : t.reader.ready = .ok record :: rest) (hopen : t.channel.closed = false) :
    Accords input ending seen
      { t with
        reader := { t.reader with ready := rest, forwarded := t.reader.forwarded + 1 }
        channel := { t.channel with queue := t.channel.queue ++ [record] } } := by
  have haccepted : t.taken ++ t.lost ++ (t.channel.queue ++ [record]) = t.accepted ++ [record] := by
    rw [accepted, List.append_assoc _ t.channel.queue]
  have hitems : (t.accepted ++ [record]).map Except.ok ++ rest
      = t.accepted.map Except.ok ++ t.reader.ready := by
    rw [ready, List.map_append, List.append_assoc]
    rfl
  refine
    { ending_eq := h.ending_eq
      input_eq := h.input_eq
      reading := fun hended => ⟨(h.reading hended).1, ?_⟩
      ended := fun hended => ⟨(h.ended hended).1, ?_⟩
      counted := ?_
      held := h.held.imp id fun dropped => absurd (hopen.symm.trans dropped.1) Bool.noConfusion
      finishes := fun hresult => absurd (running.symm.trans hresult) (by simp) }
  · rw [accepted, haccepted, hitems]
    exact (h.reading hended).2
  · rw [accepted, haccepted, hitems]
    exact (h.ended hended).2
  · rw [accepted, haccepted, List.length_append, ← h.counted]
    rfl

theorem Accords.work (h : Accords input ending seen t) (work : Works t t') :
    ∃ seen', Accords input ending seen' t' := by
  cases work with
  | read running unread => exact ⟨_, h.read running unread⟩
  | finish running unread hended well => exact ⟨seen, h.finish running unread hended well⟩
  | fail running unread hended ill => exact ⟨seen, h.fail running unread hended ill⟩
  | step busy =>
    refine ⟨seen, ?_⟩
    have advances := Reader.advances_of_busy busy
    generalize t.reader.step t.channel = after at advances
    cases advances with
    | ends running ready hended => exact h.stop (h.counted ▸ .ends hended ready)
    | fails running ready => exact h.stop (.fails ready)
    | sends running ready hopen => exact h.forward running ready hopen
    | refused running ready closed => exact h.stop (h.counted ▸ .refused ready closed)

/-- What the others do to the channel moves records on, and may close it. -/
theorem Accords.handle {channel : Channel} {taken lost : List Bytes}
    (h : Accords input ending seen t)
    (same : taken ++ lost ++ channel.queue = t.accepted)
    (closed : t.channel.closed = true → channel.closed = true)
    (held : lost = [] ∨ channel.closed = true ∧ channel.queue = []) :
    Accords input ending seen { t with channel, taken, lost } := by
  refine
    { ending_eq := h.ending_eq
      input_eq := h.input_eq
      reading := fun hended => ?_
      ended := fun hended => ?_
      counted := ?_
      held := held
      finishes := fun {result} hresult => ?_ }
  · rw [accepted, same]
    exact h.reading hended
  · rw [accepted, same]
    exact h.ended hended
  · rw [accepted, same]
    exact h.counted
  · have hcount : t.accepted.length = (taken ++ lost ++ channel.queue).length := by rw [same]
    cases h.finishes hresult with
    | ends hended hready => exact hcount ▸ .ends hended hready
    | fails hready => exact .fails hready
    | refused hready hclosed => exact hcount ▸ .refused hready (closed hclosed)

theorem Accords.step (h : Accords input ending seen t) (step : Step t t') :
    ∃ seen', Accords input ending seen' t' := by
  cases step with
  | work work => exact h.work work
  | @take record channel htake =>
    obtain ⟨hqueue, hchannel⟩ := Channel.take?_some htake
    have hlost : t.lost = [] :=
      h.held.resolve_right fun dropped => absurd (hqueue.symm.trans dropped.2) (by simp)
    refine ⟨seen, h.handle ?_ (fun hclosed => by rw [hchannel]; exact hclosed) (.inl hlost)⟩
    rw [accepted, hlost, hqueue]
    simp
  | close hopen =>
    refine ⟨seen, h.handle rfl (fun _ => rfl) (h.held.imp id fun dropped => ⟨rfl, dropped.2⟩)⟩
  | drop _ =>
    refine ⟨seen, h.handle ?_ (fun _ => rfl) (.inr ⟨rfl, rfl⟩)⟩
    show t.taken ++ (t.lost ++ t.channel.queue) ++ [] = t.accepted
    rw [List.append_nil, accepted, List.append_assoc]

theorem accords_start (pieces : List Bytes) (ending : Option IoError) (capacity : Nat) :
    Accords pieces.flatten ending [] (start pieces ending capacity) where
  ending_eq := rfl
  input_eq := rfl
  reading := fun _ => ⟨rfl, rfl⟩
  ended := fun hended => absurd hended Bool.noConfusion
  counted := rfl
  held := .inl rfl
  finishes := fun hresult => absurd hresult (by simp [start, Reader.start])

theorem Accords.run {n : Nat} (h : Accords input ending seen t) (run : Run n t t') :
    ∃ seen', Accords input ending seen' t' := by
  induction run with
  | refl => exact ⟨seen, h⟩
  | tail _ step ih =>
    obtain ⟨seen', h'⟩ := ih h
    exact h'.step step

/-- What was accepted and what is ready are the first of all there can be. -/
theorem Accords.items_front (h : Accords input ending seen t) :
    t.accepted.map .ok ++ t.reader.ready <+: Reader.items input ending := by
  cases hended : t.reader.ended with
  | true => exact (h.ended hended).2 ▸ List.prefix_rfl
  | false =>
    rw [(h.reading hended).2, h.input_eq]
    exact Reader.endedLines_front_items seen t.unread.flatten ending

/-! ### Runs have an end -/

/-- A bound on the steps that a transfer can still make; `all` is the number of what there is to
forward. -/
def potential (all : Nat) (t : Transfer) : Nat :=
  t.unread.length + (!t.reader.ended).toNat + t.reader.result.isNone.toNat +
    (!t.channel.closed).toNat + t.channel.queue.length + 2 * (all - t.accepted.length)

theorem Accords.potential_lt (h : Accords input ending seen t) (step : Step t t') :
    t'.potential (Reader.items input ending).length
      < t.potential (Reader.items input ending).length := by
  have hprefix := h.items_front.length_le
  rw [List.length_append, List.length_map] at hprefix
  cases step with
  | work work =>
    cases work with
    | read running unread => simp [potential, accepted, unread, Reader.feed]
    | finish running unread hended well => simp [potential, accepted, Reader.finish, hended]
    | fail running unread hended ill => simp [potential, accepted, Reader.fail, hended]
    | step busy =>
      have advances := Reader.advances_of_busy busy
      generalize t.reader.step t.channel = after at advances
      cases advances with
      | ends running ready hended => simp [potential, accepted, Channel.finish, running]
      | fails running ready => simp [potential, accepted, Channel.finish, running]
      | sends running ready _ =>
        simp only [accepted, ready, List.length_append, List.length_cons] at hprefix
        simp [potential, accepted]
        omega
      | refused running ready closed => simp [potential, accepted, Channel.finish, running]
  | @take record channel htake =>
    obtain ⟨hqueue, hchannel⟩ := Channel.take?_some htake
    have hclosed : channel.closed = t.channel.closed := by rw [hchannel]
    simp [potential, accepted, hqueue, hclosed]
    omega
  | close hopen => simp [potential, accepted, Channel.close, hopen]
  | drop hlive =>
    rcases hlive with hopen | hqueue
    · simp [potential, accepted, Channel.drop, hopen]
      omega
    · have hpos := List.length_pos_iff.mpr hqueue
      simp [potential, accepted, Channel.drop]
      omega

theorem Accords.run_potential {n : Nat} (h : Accords input ending seen t) (run : Run n t t') :
    n + t'.potential (Reader.items input ending).length
      ≤ t.potential (Reader.items input ending).length := by
  induction run with
  | refl => exact Nat.le_of_eq (Nat.zero_add _)
  | tail run step ih =>
    obtain ⟨seen', h'⟩ := h.run run
    have hless := h'.potential_lt step
    have hbound := ih h
    omega

end Accords

theorem Run.trans {n m : Nat} {t t' t'' : Transfer} (h : Run n t t') (h' : Run m t' t'') :
    Run (n + m) t t'' := by
  induction h' with
  | refl => exact h
  | tail _ step ih => exact .tail (ih h) step

theorem run_of_steps (m : Nat) (t : Transfer) : ∃ n, Run n t { t with
    reader := (t.reader.steps m t.channel).1, channel := (t.reader.steps m t.channel).2 } := by
  induction m generalizing t with
  | zero => exact ⟨0, .refl⟩
  | succ m ih =>
    by_cases idle : t.reader.step t.channel = (t.reader, t.channel)
    · rw [Reader.steps, idle]
      exact ih t
    · obtain ⟨n, hrun⟩ := ih { t with
        reader := (t.reader.step t.channel).1, channel := (t.reader.step t.channel).2 }
      exact ⟨_, (Run.tail .refl (.work (.step idle))).trans hrun⟩

/-- To go on as far as there is room is a run, after which the reader has nothing to do with the
channel as it is. -/
theorem run_of_run (t : Transfer) : ∃ n t', Run n t t' ∧
    t'.reader = (t.reader.run t.channel).1 ∧ t'.channel = (t.reader.run t.channel).2 ∧
      t'.reader.step t'.channel = (t'.reader, t'.channel) := by
  obtain ⟨n, run⟩ := run_of_steps _ t
  exact ⟨n, _, run, rfl, rfl, t.reader.run_idle t.channel⟩

/-! ### The reader is not stuck -/

section Rests

variable {t t' : Transfer}

/-- The reader has nothing to do, and it has not been left waiting for room. -/
def Rests (t : Transfer) : Prop :=
  (∀ t', ¬ Works t t') ∧ (t.channel.closed = true ∨ t.channel.queue = [])

theorem capacity_of_step (step : Step t t') : t'.channel.capacity = t.channel.capacity := by
  cases step with
  | work work =>
    cases work with
    | read _ _ => rfl
    | finish _ _ _ _ => rfl
    | fail _ _ _ _ => rfl
    | step busy =>
      have advances := Reader.advances_of_busy busy
      generalize t.reader.step t.channel = after at advances
      cases advances <;> rfl
  | take htake => rw [(Channel.take?_some htake).2]
  | close _ => rfl
  | drop _ => rfl

theorem capacity_of_run {n : Nat} (run : Run n t t') :
    t'.channel.capacity = t.channel.capacity := by
  induction run with
  | refl => rfl
  | tail _ step ih => exact (capacity_of_step step).trans ih

theorem Rests.finished (rests : t.Rests) (room : 0 < t.channel.capacity) :
    t.reader.result.isSome = true := by
  obtain ⟨idle, drained⟩ := rests
  by_contra running
  have running : t.reader.result = none := by simpa using running
  -- the input has been read to its end
  have unread : t.unread = [] := by
    cases hunread : t.unread with
    | nil => rfl
    | cons piece rest => exact absurd (.read running hunread) (idle _)
  have hended : t.reader.ended = true := by
    cases hended : t.reader.ended with
    | true => rfl
    | false =>
      cases hending : t.ending with
      | none => exact absurd (.finish running unread hended hending) (idle _)
      | some cause => exact absurd (.fail running unread hended hending) (idle _)
  -- so that its next step is not idle
  rcases Reader.step_cases t.reader t.channel with ⟨-, waits⟩ | advances
  · cases waits with
    | finished done => exact absurd (running ▸ done) Bool.noConfusion
    | forInput _ unended => exact absurd (hended.symm.trans unended) Bool.noConfusion
    | forRoom unclosed full =>
      rcases drained with closed | empty
      · exact absurd (closed.symm.trans unclosed) Bool.noConfusion
      · rw [empty, List.length_nil] at full
        omega
  · exact idle _ (.step advances.busy)

end Rests

end Transfer

end Outbox
