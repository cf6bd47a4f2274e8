import Mathlib.Data.List.Count
import Outbox.Proofs.Sink.Course
import Outbox.Proofs.Sink.Start

/-!
# Accounts of files

Every path that a sink has got, from an earlier run or from a rollover, is in one place: in the
queue, under way, or taken in as uploaded. It is there as often as it was got. The accounts are kept
by counting one path at a time, so that every step changes them by at most one on both sides, and
they hold whatever happens to the disk and at the destination.
-/

set_option autoImplicit false

namespace Outbox

namespace Course

def rolled (c : Course) : List Path :=
  c.deeds.filterMap Deed.rolled?

def dispatched (c : Course) : List Path :=
  c.deeds.filterMap Deed.dispatched?

def uploaded (c : Course) : List Path :=
  c.deeds.filterMap Deed.uploaded?

def failed (c : Course) : List (Path × UploadError) :=
  c.deeds.filterMap Deed.failed?

/-- The files of the uploads whose outcome has not been taken in. -/
def underWay (c : Course) : List Path :=
  c.sink.uploads.map Upload.path ++ c.sink.outcomes.map Outcome.path

/-- The wording of the last failure, nothing without one. -/
def lastWording (failures : List (Path × UploadError)) : String :=
  (failures.getLast?.map fun failure => failure.2.message).getD ""

/-- The accounts of a course that began with files in the queue. -/
structure Accounts (queued : List Path) (c : Course) : Prop where
  files : ∀ path, (queued ++ c.rolled).count path
    = c.sink.pending.count path + c.underWay.count path + c.uploaded.count path
  tries : ∀ path, c.dispatched.count path + c.sink.pending.count path
    = (queued ++ c.rolled).count path + (c.failed.map Prod.fst).count path
  total : c.dispatched.length = c.uploaded.length + c.failed.length + c.sink.inFlight
  inFlight : c.sink.inFlight = c.sink.uploads.length + c.sink.outcomes.length
  uploaded : c.sink.counters.uploaded = c.uploaded.length
  errors : c.sink.counters.errors = c.failed.length
  lastError : c.sink.counters.lastError = lastWording c.failed
  pending : c.sink.counters.pending = c.sink.pending.length
  published : c.sink.counters.inFlight = c.sink.inFlight

/-! ### Deeds and books -/

/-- Deeds that no account is kept of. -/
structure Quiet (deeds : List Deed) : Prop where
  rolled : deeds.filterMap Deed.rolled? = []
  dispatched : deeds.filterMap Deed.dispatched? = []
  uploaded : deeds.filterMap Deed.uploaded? = []
  failed : deeds.filterMap Deed.failed? = []

theorem quiet_nil : Quiet [] :=
  ⟨rfl, rfl, rfl, rfl⟩

theorem quiet_closing (s : Sink) (w : World) : Quiet (closing s w) := by
  rw [closing]
  split
  · exact ⟨rfl, rfl, rfl, rfl⟩
  · exact quiet_nil

theorem quiet_taking (record : Bytes) (result : Except SinkError Unit) :
    Quiet (taking record result) := by
  cases result with
  | error e => exact quiet_nil
  | ok => exact ⟨rfl, rfl, rfl, rfl⟩

theorem quiet_delivery (u u' : Upload) (w : World) : Quiet (delivery u u' w) := by
  rw [delivery]
  split
  · exact ⟨rfl, rfl, rfl, rfl⟩
  · exact quiet_nil

/-- Two sinks that have the same files and have counted the same. -/
structure SameBooks (s s' : Sink) : Prop where
  pending : s'.pending = s.pending
  uploads : s'.uploads.map Upload.path = s.uploads.map Upload.path
  outcomes : s'.outcomes = s.outcomes
  inFlight : s'.inFlight = s.inFlight
  counters : s'.counters = s.counters

/-- What a step adds to both sides of the accounts. -/
theorem Accounts.change {queued : List Path} {c c' : Course} (h : Accounts queued c)
    (deeds : List Deed) (hdeeds : c'.deeds = c.deeds ++ deeds)
    (files : ∀ path, (deeds.filterMap Deed.rolled?).count path
      + (c.sink.pending.count path + c.underWay.count path)
        = c'.sink.pending.count path + c'.underWay.count path
          + (deeds.filterMap Deed.uploaded?).count path)
    (tries : ∀ path, (deeds.filterMap Deed.dispatched?).count path + c'.sink.pending.count path
      = c.sink.pending.count path + (deeds.filterMap Deed.rolled?).count path
        + ((deeds.filterMap Deed.failed?).map Prod.fst).count path)
    (total : (deeds.filterMap Deed.dispatched?).length + c.sink.inFlight
      = (deeds.filterMap Deed.uploaded?).length + (deeds.filterMap Deed.failed?).length
        + c'.sink.inFlight)
    (inFlight : c.sink.inFlight = c.sink.uploads.length + c.sink.outcomes.length →
      c'.sink.inFlight = c'.sink.uploads.length + c'.sink.outcomes.length)
    (uploaded : c'.sink.counters.uploaded
      = c.sink.counters.uploaded + (deeds.filterMap Deed.uploaded?).length)
    (errors : c'.sink.counters.errors
      = c.sink.counters.errors + (deeds.filterMap Deed.failed?).length)
    (lastError : c'.sink.counters.lastError
      = if deeds.filterMap Deed.failed? = [] then c.sink.counters.lastError
        else lastWording (deeds.filterMap Deed.failed?))
    (pending : c'.sink.counters.pending = c'.sink.pending.length)
    (published : c'.sink.counters.inFlight = c'.sink.inFlight) : Accounts queued c' := by
  have hrolled : c'.rolled = c.rolled ++ deeds.filterMap Deed.rolled? := by
    rw [Course.rolled, hdeeds, List.filterMap_append]
    rfl
  have hdispatched : c'.dispatched = c.dispatched ++ deeds.filterMap Deed.dispatched? := by
    rw [Course.dispatched, hdeeds, List.filterMap_append]
    rfl
  have huploaded : c'.uploaded = c.uploaded ++ deeds.filterMap Deed.uploaded? := by
    rw [Course.uploaded, hdeeds, List.filterMap_append]
    rfl
  have hfailed : c'.failed = c.failed ++ deeds.filterMap Deed.failed? := by
    rw [Course.failed, hdeeds, List.filterMap_append]
    rfl
  refine
    { files := fun path => ?_
      tries := fun path => ?_
      total := ?_
      inFlight := inFlight h.inFlight
      uploaded := ?_
      errors := ?_
      lastError := ?_
      pending := pending
      published := published }
  · have hbefore := h.files path
    have hstep := files path
    rw [List.count_append] at hbefore
    rw [hrolled, huploaded, List.count_append, List.count_append, List.count_append]
    omega
  · have hbefore := h.tries path
    have hstep := tries path
    rw [List.count_append] at hbefore
    rw [hrolled, hdispatched, hfailed, List.map_append, List.count_append, List.count_append,
      List.count_append, List.count_append]
    omega
  · have hbefore := h.total
    rw [hdispatched, huploaded, hfailed, List.length_append, List.length_append,
      List.length_append]
    omega
  · rw [uploaded, h.uploaded, huploaded, List.length_append]
  · rw [errors, h.errors, hfailed, List.length_append]
  · rw [lastError, hfailed]
    split
    · next hnil => rw [hnil, List.append_nil, h.lastError]
    · next hnil => rw [lastWording, lastWording, List.getLast?_append_of_ne_nil _ hnil]

theorem Accounts.of_same {queued : List Path} {c c' : Course} (h : Accounts queued c)
    (deeds : List Deed) (books : SameBooks c.sink c'.sink)
    (hdeeds : c'.deeds = c.deeds ++ deeds) (quiet : Quiet deeds) : Accounts queued c' := by
  have hlength : c'.sink.uploads.length = c.sink.uploads.length := by
    simpa using congrArg List.length books.uploads
  have hunderWay : c'.underWay = c.underWay := by
    rw [underWay, underWay, books.uploads, books.outcomes]
  refine h.change deeds hdeeds ?_ ?_ ?_ ?_ ?_ ?_ ?_ ?_ ?_
  · intro path
    rw [quiet.rolled, quiet.uploaded, books.pending, hunderWay, List.count_nil]
    omega
  · intro path
    rw [quiet.rolled, quiet.dispatched, quiet.failed, books.pending, List.map_nil, List.count_nil]
    omega
  · rw [quiet.dispatched, quiet.uploaded, quiet.failed, books.inFlight]
    simp
  · intro hbefore
    rw [books.inFlight, hlength, books.outcomes, hbefore]
  · rw [books.counters, quiet.uploaded, List.length_nil, Nat.add_zero]
  · rw [books.counters, quiet.failed, List.length_nil, Nat.add_zero]
  · rw [books.counters, quiet.failed, if_pos rfl]
  · rw [books.counters, books.pending, h.pending]
  · rw [books.counters, books.inFlight, h.published]

/-- What a rollover does to the books: nothing, or what it has rolled goes to the queue or is
dispatched. -/
theorem rollOver_books (s : Sink) (w : World) :
    (∃ e s', SameBooks s s' ∧ ∃ w', s.rollOver w = (.error e, s', w')) ∨
      ∃ path s', SameBooks s s' ∧
        ∃ w', s.rollOver w = (.ok path, s'.enqueue path, w') ∨
          s.rollOver w = (.ok path, s'.dispatch path, w') := by
  cases hlive : s.live.rollOver LiveFile.stampPattern w with
  | mk result after =>
    obtain ⟨live, w'⟩ := after
    cases result with
    | error e =>
      exact .inl ⟨_, { s with live }, ⟨rfl, rfl, rfl, rfl, rfl⟩, w',
        by rw [Sink.rollOver, hlive]⟩
    | ok path =>
      refine .inr ⟨path, { s with live, fileSize := 0 }, ⟨rfl, rfl, rfl, rfl, rfl⟩, w', ?_⟩
      rw [Sink.rollOver, hlive]
      by_cases h : Sink.atCapacity { s with live, fileSize := 0 }
      · exact .inl (by simp only [h, if_true])
      · exact .inr (by simp only [h, Bool.false_eq_true, if_false])

/-! ### Steps -/

section Moves

variable {queued : List Path} {c : Course}

theorem Accounts.enqueue {s : Sink} {w : World} {path : Path} {deeds : List Deed}
    (h : Accounts queued c) (books : SameBooks c.sink s) (quiet : Quiet deeds) :
    Accounts queued { sink := s.enqueue path, world := w
                      deeds := c.deeds ++ (deeds ++ [.rolled path]) } := by
  obtain ⟨h₁, h₂, h₃, h₄⟩ := quiet
  have hlength : s.uploads.length = c.sink.uploads.length := by
    simpa using congrArg List.length books.uploads
  refine h.change _ rfl ?_ ?_ ?_ ?_ ?_ ?_ ?_ rfl rfl
  · intro p
    simp only [List.filterMap_append, h₁, h₃, List.filterMap_cons, List.filterMap_nil,
      Deed.rolled?, Deed.uploaded?, underWay, Sink.enqueue, Sink.publish, books.pending,
      books.uploads, books.outcomes, List.count_append, List.count_nil]
    omega
  · intro p
    simp only [List.filterMap_append, h₁, h₂, h₄, List.filterMap_cons, List.filterMap_nil,
      Deed.rolled?, Deed.dispatched?, Deed.failed?, Sink.enqueue, Sink.publish, books.pending,
      List.count_append, List.map_append, List.map_nil, List.count_nil]
    omega
  · simp only [List.filterMap_append, h₂, h₃, h₄, List.filterMap_cons, List.filterMap_nil,
      Deed.dispatched?, Deed.uploaded?, Deed.failed?, Sink.enqueue, Sink.publish, books.inFlight,
      List.append_nil, List.length_nil]
  · intro hbefore
    simp only [Sink.enqueue, Sink.publish, books.inFlight, books.outcomes, hlength, hbefore]
  · simp [h₃, Deed.uploaded?, Sink.enqueue, Sink.publish, books.counters, List.filterMap_cons]
  · simp [h₄, Deed.failed?, Sink.enqueue, Sink.publish, books.counters, List.filterMap_cons]
  · simp [h₄, Deed.failed?, Sink.enqueue, Sink.publish, books.counters, List.filterMap_cons]

theorem Accounts.dispatchRolled {s : Sink} {w : World} {path : Path} {deeds : List Deed}
    (h : Accounts queued c) (books : SameBooks c.sink s) (quiet : Quiet deeds) :
    Accounts queued { sink := s.dispatch path, world := w
                      deeds := c.deeds ++ (deeds ++ [.rolled path, .dispatched path]) } := by
  obtain ⟨h₁, h₂, h₃, h₄⟩ := quiet
  have hlength : s.uploads.length = c.sink.uploads.length := by
    simpa using congrArg List.length books.uploads
  refine h.change _ rfl ?_ ?_ ?_ ?_ ?_ ?_ ?_ rfl rfl
  · intro p
    simp only [List.filterMap_append, h₁, h₃, List.filterMap_cons, List.filterMap_nil,
      Deed.rolled?, Deed.uploaded?, underWay, Sink.dispatch, Sink.publish, books.pending,
      List.map_append, List.map_cons, List.map_nil, Upload.ofPath, books.uploads, books.outcomes,
      List.count_append, List.count_nil]
    omega
  · intro p
    simp only [List.filterMap_append, h₁, h₂, h₄, List.filterMap_cons, List.filterMap_nil,
      Deed.rolled?, Deed.dispatched?, Deed.failed?, Sink.dispatch, Sink.publish, books.pending,
      List.count_append, List.map_append, List.map_nil, List.count_nil]
    omega
  · simp only [List.filterMap_append, h₂, h₃, h₄, List.filterMap_cons, List.filterMap_nil,
      Deed.dispatched?, Deed.uploaded?, Deed.failed?, Sink.dispatch, Sink.publish,
      books.inFlight, List.nil_append, List.length_cons, List.length_nil]
    omega
  · intro hbefore
    simp only [Sink.dispatch, Sink.publish, books.inFlight, books.outcomes, List.length_append,
      hlength, hbefore, List.length_cons, List.length_nil]
    omega
  · simp [h₃, Deed.uploaded?, Sink.dispatch, Sink.publish, books.counters, List.filterMap_cons]
  · simp [h₄, Deed.failed?, Sink.dispatch, Sink.publish, books.counters, List.filterMap_cons]
  · simp [h₄, Deed.failed?, Sink.dispatch, Sink.publish, books.counters, List.filterMap_cons]

theorem Accounts.rollOver (h : Accounts queued c) : Accounts queued c.rollOver := by
  rcases rollOver_books c.sink c.world with
    ⟨e, s', books, w', heq⟩ | ⟨path, s', books, w', heq | heq⟩
  · have hdeeds : c.rollOver.deeds = c.deeds ++ (closing c.sink c.world ++ started c.sink s') := by
      simp only [Course.rollOver, go, rollDeeds, heq, rolling, List.append_nil]
    have huploads : c.rollOver.sink = s' := by
      simp only [Course.rollOver, go, heq]
    have hstarted : started c.sink s' = [] := by
      have hlength : s'.uploads.length = c.sink.uploads.length := by
        simpa using congrArg List.length books.uploads
      rw [started, ← hlength, List.drop_length, List.map_nil]
    rw [hstarted, List.append_nil] at hdeeds
    exact h.of_same _ (by rwa [huploads]) hdeeds (quiet_closing _ _)
  · have hstarted : started c.sink (s'.enqueue path) = [] := by
      have hlength : s'.uploads.length = c.sink.uploads.length := by
        simpa using congrArg List.length books.uploads
      rw [started, ← hlength]
      exact congrArg (List.map _) List.drop_length
    have heq' : c.rollOver =
        { sink := s'.enqueue path, world := w'
          deeds := c.deeds ++ (closing c.sink c.world ++ [.rolled path]) } := by
      simp only [Course.rollOver, go, rollDeeds, heq, rolling, hstarted, List.append_nil]
    rw [heq']
    exact h.enqueue books (quiet_closing _ _)
  · have hstarted : started c.sink (s'.dispatch path) = [.dispatched path] := by
      have hlength : s'.uploads.length = c.sink.uploads.length := by
        simpa using congrArg List.length books.uploads
      rw [started, ← hlength]
      exact congrArg (List.map _) (@List.drop_left _ s'.uploads [Upload.ofPath path])
    have heq' : c.rollOver
        = { sink := s'.dispatch path, world := w'
            deeds := c.deeds
              ++ (closing c.sink c.world ++ [.rolled path, .dispatched path]) } := by
      simp only [Course.rollOver, go, rollDeeds, heq, rolling, hstarted, List.append_nil,
        List.append_assoc, List.cons_append, List.nil_append]
    rw [heq']
    exact h.dispatchRolled books (quiet_closing _ _)

theorem Accounts.append (h : Accounts queued c) (record : Bytes) :
    Accounts queued (c.append record) := by
  have books : SameBooks c.sink (c.sink.append record c.world).2.1 := by
    rw [Sink.append]
    split <;> exact ⟨rfl, rfl, rfl, rfl, rfl⟩
  refine h.of_same (taking record (c.sink.append record c.world).1) books ?_
    (quiet_taking _ _)
  simp only [Course.append, go, started_of_eq (append_uploads c.sink record c.world),
    List.nil_append]

theorem Accounts.dispatchNext (h : Accounts queued c) : Accounts queued c.dispatchNext := by
  have hsame : SameBooks c.sink c.sink := ⟨rfl, rfl, rfl, rfl, rfl⟩
  by_cases hcapacity : c.sink.atCapacity
  · have hnext : c.sink.dispatchNext = c.sink := by rw [Sink.dispatchNext, if_pos hcapacity]
    refine h.of_same [] (by simpa only [Course.dispatchNext, go, hnext] using hsame) ?_
      quiet_nil
    simp only [Course.dispatchNext, go, hnext, started_of_eq]
    rfl
  · cases hpending : c.sink.pending with
    | nil =>
      have hnext : c.sink.dispatchNext = c.sink := by
        rw [Sink.dispatchNext, if_neg hcapacity, hpending]
      refine h.of_same [] (by simpa only [Course.dispatchNext, go, hnext] using hsame)
        ?_ quiet_nil
      simp only [Course.dispatchNext, go, hnext, started_of_eq]
      rfl
    | cons path rest =>
      have hnext : c.sink.dispatchNext = { c.sink with pending := rest }.dispatch path := by
        rw [Sink.dispatchNext, if_neg hcapacity, hpending]
      have hstarted : started c.sink ({ c.sink with pending := rest }.dispatch path)
          = [.dispatched path] := started_append _ [Upload.ofPath path] rfl
      have heq : c.dispatchNext
          = { sink := { c.sink with pending := rest }.dispatch path, world := c.world
              deeds := c.deeds ++ [.dispatched path] } := by
        simp only [Course.dispatchNext, go, hnext, hstarted, List.nil_append, List.append_nil]
      rw [heq]
      refine h.change _ rfl ?_ ?_ ?_ ?_ ?_ ?_ ?_ rfl rfl
      · intro p
        simp only [List.filterMap_cons, List.filterMap_nil, Deed.rolled?, Deed.uploaded?,
          underWay, Sink.dispatch, Sink.publish, hpending, List.map_append, List.map_cons,
          List.map_nil, Upload.ofPath, List.count_append, List.count_nil, List.count_cons]
        omega
      · intro p
        simp only [List.filterMap_cons, List.filterMap_nil, Deed.rolled?, Deed.dispatched?,
          Deed.failed?, Sink.dispatch, Sink.publish, hpending, List.map_nil, List.count_nil,
          List.count_cons]
        omega
      · simp only [List.filterMap_cons, List.filterMap_nil, Deed.dispatched?, Deed.uploaded?,
          Deed.failed?, Sink.dispatch, Sink.publish, List.length_cons, List.length_nil]
        omega
      · intro hbefore
        simp only [Sink.dispatch, Sink.publish, List.length_append, List.length_cons,
          List.length_nil, hbefore]
        omega
      · rfl
      · rfl
      · rfl

theorem Accounts.turn {before after : List Upload} {u : Upload} (h : Accounts queued c)
    (among : c.sink.uploads = before ++ u :: after) :
    Accounts queued (c.turn before u after) := by
  refine h.of_same _ ⟨rfl, ?_, rfl, rfl, rfl⟩ rfl (quiet_delivery _ _ _)
  simp only [Course.turn, goUpload, among, List.map_append, List.map_cons, turn_path]

theorem Accounts.handIn {before after : List Upload} {u : Upload}
    {result : Except UploadError Unit} (h : Accounts queued c)
    (among : c.sink.uploads = before ++ u :: after) :
    Accounts queued (c.handIn (before ++ after) { path := u.path, result }) := by
  refine h.change [] (List.append_nil _).symm ?_ ?_ ?_ ?_ rfl rfl rfl h.pending
    h.published
  · intro p
    simp only [Course.handIn, underWay, among, List.filterMap_nil, List.map_append,
      List.map_cons, List.map_nil, List.count_append, List.count_cons, List.count_nil]
    omega
  · intro p
    simp only [Course.handIn, List.filterMap_nil, List.map_nil, List.count_nil]
    omega
  · simp only [Course.handIn, List.filterMap_nil, List.length_nil]
  · intro hbefore
    simp only [among, List.length_append, List.length_cons] at hbefore
    simp only [Course.handIn, List.length_append, List.length_cons, List.length_nil]
    omega

theorem Accounts.release {before after : List Upload} {u : Upload} {action : Action}
    (h : Accounts queued c) (among : c.sink.uploads = before ++ u :: after) :
    Accounts queued (c.release before u after action) := by
  have quiet := quiet_delivery u (u.release action c.sink.destination c.world).1 c.world
  refine h.change (delivery u (u.release action c.sink.destination c.world).1 c.world) rfl
    ?_ ?_ ?_ ?_ ?_ ?_ ?_ h.pending h.published
  · intro p
    simp only [quiet.rolled, quiet.uploaded, Course.release, goUpload, underWay, among,
      List.map_append, List.map_cons, List.map_nil, release_path, List.count_append,
      List.count_cons, List.count_nil]
    omega
  · intro p
    simp only [quiet.rolled, quiet.dispatched, quiet.failed, Course.release, goUpload,
      List.map_nil, List.count_nil]
    omega
  · simp only [quiet.dispatched, quiet.uploaded, quiet.failed, Course.release, goUpload,
      List.length_nil]
  · intro hbefore
    simp only [among, List.length_append, List.length_cons] at hbefore
    simp only [Course.release, goUpload, List.length_append, List.length_cons, List.length_nil]
    omega
  · rw [quiet.uploaded]
    rfl
  · rw [quiet.failed]
    rfl
  · rw [quiet.failed]
    rfl

/-- An outcome that is taken in was under way, so the number of uploads under way is above zero. -/
theorem Accounts.settle {outcome : Outcome} {rest : List Outcome} (h : Accounts queued c)
    (first : c.sink.outcomes = outcome :: rest) : Accounts queued (c.settle outcome rest) := by
  have hinFlight := h.inFlight
  rw [first, List.length_cons] at hinFlight
  obtain ⟨path, result⟩ := outcome
  cases result with
  | ok done =>
    refine h.change [.settled { path, result := .ok done }] rfl ?_ ?_ ?_ ?_ rfl rfl rfl
      rfl rfl
    · intro p
      simp only [List.filterMap_cons, List.filterMap_nil, Deed.rolled?, Deed.uploaded?, underWay,
        first, Course.settle, Sink.settleOutcome, Sink.publish, List.map_cons, List.count_append,
        List.count_cons, List.count_nil]
      omega
    · intro p
      simp only [List.filterMap_cons, List.filterMap_nil, Deed.rolled?, Deed.dispatched?,
        Deed.failed?, Course.settle, Sink.settleOutcome, Sink.publish, List.map_nil,
        List.count_nil]
      omega
    · simp only [List.filterMap_cons, List.filterMap_nil, Deed.dispatched?, Deed.uploaded?,
        Deed.failed?, Course.settle, Sink.settleOutcome, Sink.publish, List.length_cons,
        List.length_nil]
      omega
    · intro _
      simp only [Course.settle, Sink.settleOutcome, Sink.publish]
      omega
  | error e =>
    refine h.change [.settled { path, result := .error e }] rfl ?_ ?_ ?_ ?_ rfl rfl rfl
      rfl rfl
    · intro p
      simp only [List.filterMap_cons, List.filterMap_nil, Deed.rolled?, Deed.uploaded?, underWay,
        first, Course.settle, Sink.settleOutcome, Sink.enqueue, Sink.countError, Sink.publish,
        List.map_cons, List.count_append, List.count_cons, List.count_nil]
      omega
    · intro p
      simp only [List.filterMap_cons, List.filterMap_nil, Deed.rolled?, Deed.dispatched?,
        Deed.failed?, Course.settle, Sink.settleOutcome, Sink.enqueue, Sink.countError,
        Sink.publish, List.map_cons, List.map_nil, List.count_append, List.count_cons,
        List.count_nil]
      omega
    · simp only [List.filterMap_cons, List.filterMap_nil, Deed.dispatched?, Deed.uploaded?,
        Deed.failed?, Course.settle, Sink.settleOutcome, Sink.enqueue, Sink.countError,
        Sink.publish, List.length_cons, List.length_nil]
      omega
    · intro _
      simp only [Course.settle, Sink.settleOutcome, Sink.enqueue, Sink.countError, Sink.publish]
      omega

theorem Accounts.step {outside deliveries : World → World → Prop} {c' : Course}
    (h : Accounts queued c) (step : Step outside deliveries c c') : Accounts queued c' := by
  have same : ∀ {c' : Course}, SameBooks c.sink c'.sink → c'.deeds = c.deeds →
      Accounts queued c' := fun books hdeeds =>
    h.of_same [] books (by rw [hdeeds, List.append_nil]) quiet_nil
  cases step with
  | output record =>
    rw [output_eq]
    split
    · split
      · exact h.rollOver.append record
      · exact h.rollOver
    · exact h.append record
  | rollOver => exact h.rollOver
  | tick =>
    rw [tick_eq]
    split
    · split
      · exact h.rollOver.dispatchNext
      · exact h.rollOver
    · exact h.dispatchNext
  | flag => exact same ⟨rfl, rfl, rfl, rfl, rfl⟩ rfl
  | turn before u after among _ => exact h.turn among
  | release before u after action among _ => exact h.release among
  | handIn before u after result among _ => exact h.handIn among
  | settle outcome rest first => exact h.settle first
  | close => exact same ⟨rfl, rfl, rfl, rfl, rfl⟩ rfl
  | outside => exact same ⟨rfl, rfl, rfl, rfl, rfl⟩ rfl

end Moves

theorem accounts_of_openLive {settings : Settings} {bufferDir : Path} {destination : Destination}
    {s : Sink} {w w' : World}
    (h : Sink.openLive settings bufferDir destination w = (.ok s, w')) :
    Accounts s.pending { sink := s, world := w', deeds := [] } := by
  obtain ⟨live, w₁, -, rfl, -⟩ := Sink.openLive_ok h
  rw [Sink.queueLeftovers]
  split
  · exact ⟨by simp [Course.rolled, Course.underWay, Course.uploaded, Sink.ofParts],
      by simp [Course.rolled, Course.dispatched, Course.failed], rfl, rfl, rfl, rfl, rfl, rfl, rfl⟩
  · exact ⟨by simp [Course.rolled, Course.underWay, Course.uploaded, Sink.ofParts, Sink.publish],
      by simp [Course.rolled, Course.dispatched, Course.failed], rfl, rfl, rfl, rfl, rfl, rfl, rfl⟩

theorem Accounts.reached {outside deliveries : World → World → Prop} {queued : List Path}
    {c c' : Course} (h : Accounts queued c) (reached : Reached outside deliveries c c') :
    Accounts queued c' := by
  induction reached with
  | start => exact h
  | step _ step ih => exact ih.step step

/-! ### The names of rolled files -/

section Rolled

variable {c c' : Course} {q : Path}

theorem rolled_of_none {deeds : List Deed} (hdeeds : c'.deeds = c.deeds ++ deeds)
    (hnone : deeds.filterMap Deed.rolled? = []) : c'.rolled = c.rolled := by
  rw [rolled, hdeeds, List.filterMap_append, hnone, List.append_nil]
  rfl

theorem started_rolled (s s' : Sink) : (started s s').filterMap Deed.rolled? = [] := by
  rw [started, List.filterMap_map]
  exact List.filterMap_eq_nil_iff.mpr fun _ _ => rfl

/-- What a rollover gives has a name that goes on after that of the live file. -/
theorem mem_rolled_rollOver (hq : q ∈ c.rollOver.rolled) :
    q ∈ c.rolled ∨ ∃ other, Follows c.sink.live.counters.name other ∧
      q = c.sink.live.path.withFileName other := by
  have hdeeds : c.rollOver.rolled
      = c.rolled ++ (rolling (c.sink.rollOver c.world).1).filterMap Deed.rolled? := by
    rw [rolled, Course.rollOver, go, List.append_nil, rollDeeds, List.filterMap_append,
      List.filterMap_append, List.filterMap_append, started_rolled, (quiet_closing _ _).rolled,
      List.append_nil, List.nil_append]
    rfl
  rw [hdeeds, List.mem_append] at hq
  rcases hq with hq | hq
  · exact .inl hq
  · -- the rollover has given it
    have hok : (c.sink.rollOver c.world).1 = .ok q := by
      cases hroll : (c.sink.rollOver c.world).1 with
      | error e => rw [hroll] at hq; exact absurd hq List.not_mem_nil
      | ok path =>
        rw [hroll] at hq
        rw [List.mem_singleton.mp hq]
    refine .inr (LiveFile.rollOver_target (w := c.world) ?_)
    rw [Sink.rollOver] at hok
    split at hok
    · exact absurd hok (by simp)
    · next target live w hlive =>
      simp only [Except.ok.injEq] at hok
      rw [hlive, hok]

theorem rolled_append (record : Bytes) : (c.append record).rolled = c.rolled := by
  refine rolled_of_none ?_ (quiet_taking record (c.sink.append record c.world).1).rolled
  simp only [Course.append, go, started_of_eq (append_uploads c.sink record c.world),
    List.nil_append]

theorem rolled_dispatchNext : c.dispatchNext.rolled = c.rolled := by
  refine rolled_of_none ?_ (started_rolled c.sink c.sink.dispatchNext)
  simp only [Course.dispatchNext, go, List.nil_append, List.append_nil]

theorem Step.rolled {outside deliveries : World → World → Prop}
    (step : Step outside deliveries c c') (hq : q ∈ c'.rolled) :
    q ∈ c.rolled ∨ ∃ other, Follows c.sink.live.counters.name other ∧
      q = c.sink.live.path.withFileName other := by
  cases step with
  | output record =>
    rw [output_eq] at hq
    split at hq
    · split at hq
      · rw [rolled_append] at hq
        exact mem_rolled_rollOver hq
      · exact mem_rolled_rollOver hq
    · rw [rolled_append] at hq
      exact .inl hq
  | rollOver => exact mem_rolled_rollOver hq
  | tick =>
    rw [tick_eq] at hq
    split at hq
    · split at hq
      · rw [rolled_dispatchNext] at hq
        exact mem_rolled_rollOver hq
      · exact mem_rolled_rollOver hq
    · rw [rolled_dispatchNext] at hq
      exact .inl hq
  | flag => exact .inl hq
  | turn before u after =>
    have hquiet := quiet_delivery u (u.turn c.sink.destination c.world).1 c.world
    have hsame : (c.turn before u after).rolled = c.rolled := rolled_of_none rfl hquiet.rolled
    exact .inl (hsame ▸ hq)
  | release before u after action =>
    have hquiet := quiet_delivery u (u.release action c.sink.destination c.world).1 c.world
    have hsame : (c.release before u after action).rolled = c.rolled :=
      rolled_of_none rfl hquiet.rolled
    exact .inl (hsame ▸ hq)
  | handIn => exact .inl hq
  | settle outcome rest first =>
    have hnone : [Deed.settled outcome].filterMap Deed.rolled? = [] := rfl
    have hsame : (c.settle outcome rest).rolled = c.rolled := rolled_of_none rfl hnone
    exact .inl (hsame ▸ hq)
  | close => exact .inl hq
  | outside => exact .inl hq

theorem Reached.rolled {outside deliveries : World → World → Prop}
    (reached : Reached outside deliveries c c') (hq : q ∈ c'.rolled) :
    q ∈ c.rolled ∨ ∃ other, Follows c.sink.live.counters.name other ∧
      q = c.sink.live.path.withFileName other := by
  induction reached with
  | start => exact .inl hq
  | step hreached step ih =>
    rcases step.rolled hq with hq | hnew
    · exact ih hq
    · rw [hreached.same.path, hreached.same.name] at hnew
      exact .inr hnew

end Rolled

/-! ### No second upload -/

/-- What a step adds to the deeds: no end of an upload, or that of one whose outcome had come in. -/
theorem Step.deeds {outside deliveries : World → World → Prop} {c c' : Course}
    (step : Step outside deliveries c c') :
    ∃ deeds, c'.deeds = c.deeds ++ deeds ∧
      ((∀ outcome, .settled outcome ∉ deeds) ∨
        ∃ outcome ∈ c.sink.outcomes, deeds = [.settled outcome]) := by
  have hstarted : ∀ (s s' : Sink) (outcome : Outcome), .settled outcome ∉ started s s' := by
    intro s s' outcome h
    obtain ⟨u, -, hu⟩ := List.mem_map.mp h
    exact absurd hu (by simp)
  have hroll : ∀ (s : Sink) (w : World) (outcome : Outcome), .settled outcome ∉ rollDeeds s w := by
    intro s w outcome
    rw [rollDeeds, closing, rolling.eq_def, List.mem_append, not_or]
    exact ⟨by split <;> simp, by split <;> simp⟩
  have htaking : ∀ (record : Bytes) (result : Except SinkError Unit) (outcome : Outcome),
      .settled outcome ∉ taking record result := by
    intro record result outcome
    rw [taking.eq_def]
    split <;> simp
  have hdelivery : ∀ (u u' : Upload) (w : World) (outcome : Outcome),
      .settled outcome ∉ delivery u u' w := by
    intro u u' w outcome
    rw [delivery]
    split <;> simp
  cases step with
  | output record =>
    refine ⟨_, rfl, .inl fun outcome => ?_⟩
    rw [List.mem_append, List.mem_append, not_or, not_or]
    exact ⟨⟨by split <;> simp [hroll], hstarted _ _ _⟩, htaking _ _ _⟩
  | rollOver =>
    refine ⟨_, rfl, .inl fun outcome => ?_⟩
    rw [List.append_nil, List.mem_append, not_or]
    exact ⟨hroll _ _ _, hstarted _ _ _⟩
  | tick =>
    refine ⟨_, rfl, .inl fun outcome => ?_⟩
    rw [List.append_nil, List.mem_append, not_or]
    exact ⟨by split <;> simp [hroll], hstarted _ _ _⟩
  | turn before u after => exact ⟨_, rfl, .inl fun outcome => hdelivery _ _ _ _⟩
  | release before u after action => exact ⟨_, rfl, .inl fun outcome => hdelivery _ _ _ _⟩
  | settle outcome rest first => exact ⟨_, rfl, .inr ⟨outcome, by simp [first], rfl⟩⟩
  | flag => exact ⟨[], by simp, .inl (by simp)⟩
  | handIn before u after result => exact ⟨[], by simp [Course.handIn], .inl (by simp)⟩
  | close => exact ⟨[], by simp [Course.close], .inl (by simp)⟩
  | outside w => exact ⟨[], by simp, .inl (by simp)⟩

theorem Accounts.dispatched_step {outside deliveries : World → World → Prop} {queued : List Path}
    {c c' : Course} {path : Path} (h : Accounts queued c) (step : Step outside deliveries c c')
    (all : (queued ++ c'.rolled).count path ≤ c.uploaded.count path) :
    c'.dispatched.count path = c.dispatched.count path ∧
      c.uploaded.count path ≤ c'.uploaded.count path := by
  obtain ⟨deeds, hdeeds, hsettled⟩ := step.deeds
  have hrolled : c'.rolled = c.rolled ++ deeds.filterMap Deed.rolled? := by
    rw [Course.rolled, hdeeds, List.filterMap_append]
    rfl
  have huploaded : c'.uploaded = c.uploaded ++ deeds.filterMap Deed.uploaded? := by
    rw [Course.uploaded, hdeeds, List.filterMap_append]
    rfl
  have hfailed : c'.failed = c.failed ++ deeds.filterMap Deed.failed? := by
    rw [Course.failed, hdeeds, List.filterMap_append]
    rfl
  have hfiles := h.files path
  have hfiles' := (h.step step).files path
  have htries := h.tries path
  have htries' := (h.step step).tries path
  rw [hrolled] at all
  rw [hrolled, huploaded] at hfiles'
  rw [hrolled, hfailed, List.map_append] at htries'
  rw [huploaded]
  simp only [List.count_append] at all hfiles hfiles' htries htries' ⊢
  -- nothing can fail that is not under way
  have hnone : ((deeds.filterMap Deed.failed?).map Prod.fst).count path = 0 := by
    rw [List.count_eq_zero]
    intro hmem
    obtain ⟨⟨p, e⟩, hfailure, hp⟩ := List.mem_map.mp hmem
    obtain rfl : p = path := hp
    obtain ⟨deed, hdeed, hfailed⟩ := List.mem_filterMap.mp hfailure
    cases deed with
    | settled outcome =>
      obtain ⟨path, result⟩ := outcome
      cases result with
      | ok => exact absurd hfailed (by simp [Deed.failed?])
      | error e' =>
        simp only [Deed.failed?, Option.some.injEq, Prod.mk.injEq] at hfailed
        obtain ⟨rfl, rfl⟩ := hfailed
        rcases hsettled with hsettled | ⟨outcome, houtcome, rfl⟩
        · exact hsettled _ hdeed
        · rw [List.mem_singleton, Deed.settled.injEq] at hdeed
          have hunderWay : 0 < c.underWay.count path := by
            rw [List.count_pos_iff, underWay, List.mem_append]
            exact .inr (List.mem_map.mpr ⟨outcome, houtcome, by rw [← hdeed]⟩)
          omega
    | _ => exact absurd hfailed (by simp [Deed.failed?])
  exact ⟨by omega, by omega⟩

/-- A file all of whose copies are uploaded is never dispatched again, unless it is rolled again. -/
theorem Accounts.dispatched_reached {outside deliveries : World → World → Prop}
    {queued : List Path} {c c' : Course} {path : Path} (h : Accounts queued c)
    (reached : Reached outside deliveries c c')
    (all : (queued ++ c'.rolled).count path ≤ c.uploaded.count path) :
    c'.dispatched.count path = c.dispatched.count path ∧
      c.uploaded.count path ≤ c'.uploaded.count path := by
  induction reached with
  | start => exact ⟨rfl, Nat.le_refl _⟩
  | @step c' c'' hreached step ih =>
    obtain ⟨deeds, hdeeds, -⟩ := step.deeds
    have hrolled : c''.rolled = c'.rolled ++ deeds.filterMap Deed.rolled? := by
      rw [Course.rolled, hdeeds, List.filterMap_append]
      rfl
    have hmore : (queued ++ c'.rolled).count path ≤ (queued ++ c''.rolled).count path := by
      rw [hrolled, List.count_append, List.count_append, List.count_append]
      omega
    obtain ⟨hdispatched, huploaded⟩ := ih (Nat.le_trans hmore all)
    obtain ⟨hdispatched', huploaded'⟩ :=
      (h.reached hreached).dispatched_step step (Nat.le_trans all huploaded)
    exact ⟨hdispatched'.trans hdispatched, Nat.le_trans huploaded huploaded'⟩

/-- Whatever happens after a sink has been started, each file that it found or rolled is in one
place, as often as it got it: in the queue, under way, or taken in as uploaded. So the number of
uploads under way is exact and never counted down from zero, a failed file has gone back to the
queue once for each failure, an uploaded one is not dispatched again, and what is published is what
there is. -/
theorem files_accounted_for {settings : Settings} {destination : Option Destination}
    {outside deliveries : World → World → Prop} {s : Sink} {w w' : World} {c : Course}
    (start : Sink.start settings destination w = (.ok s, w'))
    (reached : Reached outside deliveries { sink := s, world := w', deeds := [] } c) :
    (s.pending ++ c.rolled).Perm (c.sink.pending ++ c.underWay ++ c.uploaded) ∧
      c.sink.inFlight = c.sink.uploads.length + c.sink.outcomes.length ∧
      (c.sink.outcomes ≠ [] → 0 < c.sink.inFlight) ∧
      (∀ path, c.dispatched.count path + c.sink.pending.count path
        = (s.pending ++ c.rolled).count path + (c.failed.map Prod.fst).count path) ∧
      (∀ path c', Reached outside deliveries c c' →
        (s.pending ++ c'.rolled).count path ≤ c.uploaded.count path →
          c'.dispatched.count path = c.dispatched.count path) ∧
      c.dispatched.length
        = c.sink.counters.uploaded + c.sink.counters.errors + c.sink.counters.inFlight ∧
      c.sink.counters.uploaded = c.uploaded.length ∧
      c.sink.counters.errors = c.failed.length ∧
      c.sink.counters.lastError = lastWording c.failed ∧
      c.sink.counters.pending = c.sink.pending.length ∧
      c.sink.counters.inFlight = c.sink.inFlight := by
  obtain ⟨_, b, _, w₂, -, -, -, -, hopen⟩ := Sink.start_ok start
  have h := (accounts_of_openLive hopen).reached reached
  refine ⟨?_, h.inFlight, ?_, h.tries, ?_, ?_, h.uploaded, h.errors, h.lastError, h.pending,
    h.published⟩
  · rw [List.perm_iff_count]
    intro path
    rw [h.files path, List.count_append, List.count_append]
  · intro houtcomes
    have := List.length_pos_iff_ne_nil.mpr houtcomes
    have := h.inFlight
    omega
  · intro path c' hreached hall
    exact (h.dispatched_reached hreached hall).1
  · rw [h.total, h.uploaded, h.errors, h.published]

theorem files_accounted_for_after_rollover :
    ∃ s w', Sink.start { Settings.default with connection := "buf:dest".toList }
        (some (.archive .unset)) (.fresh "w".toList) = (.ok s, w') ∧
      ∀ c, c = ((Course.mk s w' []).output [97]).rollOver →
        (s.pending ++ c.rolled).Perm (c.sink.pending ++ c.underWay ++ c.uploaded) := by
  have hok : Sink.passes (Sink.start { Settings.default with connection := "buf:dest".toList }
      (some (.archive .unset)) (.fresh "w".toList)) (fun _ _ => true) = true := by decide +kernel
  obtain ⟨s, w', hstart, -⟩ := Sink.exists_of_passes hok
  refine ⟨s, w', hstart, ?_⟩
  rintro c rfl
  have reached : Reached (fun _ _ => True) (fun _ _ => True) (Course.mk s w' [])
      ((Course.mk s w' []).output [97]).rollOver :=
    .step (.step .start (.output _ [97])) (.rollOver _)
  exact (files_accounted_for hstart reached).1

end Course

end Outbox
