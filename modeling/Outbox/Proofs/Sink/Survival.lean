import Outbox.Proofs.Destination.Holdings
import Outbox.Proofs.Destination.Keys
import Outbox.Proofs.Sink.Apart

/-!
# What is left of an object in a store of files

A sink whose store keeps its objects in files starts wherever that store is, for a store names no
local directory that could be compared with the buffer directory. So an upload that ends with a
success leaves the object in the store exactly if the path of the object led elsewhere than to the
file itself, or the file could not be removed (`object_survives_iff`).
-/

set_option autoImplicit false

namespace Outbox

theorem Sink.start_store {settings : Settings} {store : ObjectStore} {s : Sink} {w₀ w : World}
    (h : start settings (some (.store store)) w₀ = (.ok s, w)) :
    ∃ store' w₁, store.configure (Connection.ofText settings.connection) = (.ok (), store') ∧
      openLive settings settings.bufferDir (.store store') w₁ = (.ok s, w) ∧
      (w₀.disk.Sound → w₁.disk.Sound) ∧ ∃ dir, w₁.disk.dirOf? settings.bufferDir = some dir := by
  obtain ⟨b, b', w₁, w₂, hb, hconfigure, hprepare, -, hopen⟩ := Sink.start_ok h
  obtain rfl : Destination.store store = b := Option.some.inj hb
  simp only [Destination.configure, Prod.mk.injEq] at hconfigure
  obtain ⟨hok, rfl, rfl⟩ := hconfigure
  obtain ⟨-, hsound, hdir⟩ := Sink.prepareBuffer_ok hprepare
  exact ⟨_, w₂, Prod.ext hok rfl, hopen, hsound, hdir⟩

namespace Course

variable {settings : Settings} {s : Sink} {w₀ w : World}

/-- An upload of a file of the sink that ends with a success has left the object in the store of
files, unless the path of the object led to the file itself and the file was removed. The object's
place must not be taken by a link, which would be replaced. -/
theorem object_survives_iff {url : Text} {store : ObjectStore}
    (chosen : ObjectStore.ofUrlText url = .ok store) (files : store.shelf = .files)
    (start : Sink.start settings (some (.store store)) w₀ = (.ok s, w)) (sound : w₀.disk.Sound)
    (named : Config.isPlainName settings.baseName = true) :
    ∃ store' dir, s.destination = .store store' ∧ w.disk.dirOf? s.bufferDir = some dir ∧
      ∀ c q, Reached (fun _ _ => True) (fun _ _ => True) { sink := s, world := w, deeds := [] } c →
        q ∈ s.pending ++ c.rolled → ∃ other key, q.fileName? = some other ∧
          store'.keyFor q = .ok key ∧
          ∀ (b : ObjectStore) (w' : World) (bytes : Bytes), b.shelf = store'.shelf →
            b.base = store'.base → b.front = store'.front → w'.disk.Sound →
            w'.disk.dirOf? s.bufferDir = some dir →
            (∀ {dest : Location} {name : Name},
              w'.disk.goal (Shelf.pathOf key) = .ok (.entry dest name, false) →
                w'.disk.Linkless (dest ++ [name])) →
            w'.disk.fileAt? (dir ++ [other]) = some bytes →
            ((Upload.ofPath q).run (.store b) w').1.result? = some (.ok ()) →
            (Shelf.objectAt? ((Upload.ofPath q).run (.store b) w').2.2.disk key = some bytes ↔
              ¬ (w'.disk.goal (Shelf.pathOf key) = .ok (.entry dir other, false) ∧
                ((Upload.ofPath q).run (.store b) w').2.2.disk.fileAt? (dir ++ [other]) = none)) := by
  obtain ⟨store', w₁, hset, hopen, hsound, dir, hdir⟩ := Sink.start_store start
  obtain ⟨hshelf, hbase, hfront⟩ := ObjectStore.configure_ok hset
  have opened := Sink.opened_of_openLive hopen
  have named : Plain settings.baseName := Config.plain_of_isPlainName named
  have hproper : store'.base.Proper := hbase ▸ ObjectStore.proper_of_ofUrlText chosen
  refine ⟨store', dir, opened.goesTo, ?_, fun c q reached hq => ?_⟩
  · rw [opened.holds]
    exact opened.carries.dirOf? hdir
  obtain ⟨other, hother, only⟩ := only_of_file opened (opened.sound (hsound sound)) named reached hq
  refine ⟨other, _, hother, ObjectStore.keyFor_of_fileName? hother, ?_⟩
  intro b w' bytes hfiles hb hf sound' hdir' linkless hfile hok
  rw [opened.holds] at hdir'
  have plain : Plain other := (only hdir').plain
  have hkey : b.keyFor q = .ok (ObjectKey.ofName store'.base store'.front other) := by
    rw [ObjectStore.keyFor_of_fileName? hother, hb, hf]
  exact ObjectStore.run_survives_iff (hfiles.trans (hshelf.trans files)) hkey
    (ObjectKey.proper_ofName hproper (ObjectKey.proper_of_ofText hfront) plain.ne_nil) sound'
    (fun carries => only (carries.dirOf? hdir')) linkless hfile hok

section Runs

/-- Whether a URL selects a store of files, and a sink starts with it and passes a check. -/
def storePasses (url : Text) (settings : Settings) (w : World) (check : Sink → World → Bool) :
    Bool :=
  match ObjectStore.ofUrlText url with
  | .ok store => store.shelf.isFiles &&
    Sink.passes (Sink.start settings (some (.store store)) w) check
  | .error _ => false

theorem exists_of_storePasses {url : Text} {check : Sink → World → Bool}
    (h : storePasses url settings w₀ check = true) :
    ∃ store s w, ObjectStore.ofUrlText url = .ok store ∧ store.shelf = .files ∧
      Sink.start settings (some (.store store)) w₀ = (.ok s, w) ∧ check s w = true := by
  rw [storePasses] at h
  split at h
  · next store hstore =>
    rw [Bool.and_eq_true] at h
    obtain ⟨s, w, hstart, hcheck⟩ := Sink.exists_of_passes h.2
    refine ⟨store, s, w, hstore, ?_, hstart, hcheck⟩
    cases hshelf : store.shelf with
    | files => rfl
    | memory objects => simp [hshelf, Shelf.isFiles] at h
    | remote kind => simp [hshelf, Shelf.isFiles] at h
  · exact absurd h (by simp)

/-- A disk with nothing but a directory `/w/buf`. -/
def emptyBuffer : Disk :=
  ({ Disk.fresh ['w'] with listing := .newestFirst } : Disk).put ([['w']] ++ ["buf".toList]) .dir

/-- The same disk with one rolled file in that directory. -/
def oneLeft : Disk :=
  (emptyBuffer.putNewFile ([['w'], "buf".toList] ++ ["event-bundle.1".toList])).1.setContent 0 [97]

theorem emptyBuffer_sound : emptyBuffer.Sound := by
  have start : Plain ['w'] := ⟨by decide, by decide, by decide, by decide⟩
  have buf : Plain "buf".toList := ⟨by decide, by decide, by decide, by decide⟩
  have fresh := Disk.fresh_sound start (by decide)
  exact (fresh.withListing .newestFirst).putDir (by decide) buf (by decide)

theorem oneLeft_sound : oneLeft.Sound := by
  have left : Plain "event-bundle.1".toList := ⟨by decide, by decide, by decide, by decide⟩
  have added : (emptyBuffer.putNewFile
      ([['w'], "buf".toList] ++ ["event-bundle.1".toList])).1.Sound :=
    emptyBuffer_sound.putNewFile (by decide) left (by decide)
  exact added.setContent 0 [97]

/-- The outcome of uploading the only file that waits, and the disk after it. -/
def uploadedFirst (s : Sink) (w : World) : Option (Except UploadError Unit) × Disk :=
  match s.pending with
  | q :: _ =>
    let after := (Upload.ofPath q).run s.destination w
    (after.1.result?, after.2.2.disk)
  | [] => (none, w.disk)

/-- Whether the path of the object of a file leads nowhere yet. -/
def objectMissing (s : Sink) (w : World) (q : Path) : Bool :=
  match s.destination with
  | .store store =>
    match store.keyFor q with
    | .ok key => !(w.disk.goal (Shelf.pathOf key)).toBool
    | .error _ => false
  | _ => false

def objectGone (s : Sink) (w : World) (q : Path) : Bool :=
  match s.destination with
  | .store store =>
    match store.keyFor q with
    | .ok key => decide (Shelf.objectAt? w.disk key = none)
    | .error _ => false
  | _ => false

theorem exists_of_objectGone {q : Path} (h : objectGone s w q = true) :
    ∃ store key, s.destination = .store store ∧ store.keyFor q = .ok key ∧
      Shelf.objectAt? w.disk key = none := by
  rw [objectGone] at h
  split at h
  · next store hstore =>
    split at h
    · next key hkey => exact ⟨store, key, hstore, hkey, of_decide_eq_true h⟩
    · exact absurd h (by simp)
  · exact absurd h (by simp)

/-- A store in a directory of its own has the object of a file that was uploaded and removed. -/
theorem object_survives_beside :
    ∃ store s w q key, ObjectStore.ofUrlText "file:///w/store".toList = .ok store ∧
      Sink.start { Settings.default with connection := "buf:".toList } (some (.store store))
        { World.fresh ['w'] with disk := oneLeft } = (.ok s, w) ∧
      s.pending = [q] ∧
      (uploadedFirst s w).2.fileAt? [['w'], "buf".toList, "event-bundle.1".toList] = none ∧
      Shelf.objectAt? (uploadedFirst s w).2 key = some [97] := by
  have hcheck : storePasses "file:///w/store".toList
      { Settings.default with connection := "buf:".toList }
      { World.fresh ['w'] with disk := oneLeft } (fun s w =>
        decide (s.pending = [⟨"buf/event-bundle.1".toList⟩]) && !w.disk.hasLink &&
          decide (w.disk.dirOf? s.bufferDir = some [['w'], "buf".toList]) &&
          decide (w.disk.fileAt? [['w'], "buf".toList, "event-bundle.1".toList] = some [97]) &&
          (uploadedFirst s w).1.any (fun result => result.toBool) &&
          decide ((uploadedFirst s w).2.fileAt? [['w'], "buf".toList, "event-bundle.1".toList]
            = none) &&
          objectMissing s w ⟨"buf/event-bundle.1".toList⟩) = true := by
    decide +kernel
  obtain ⟨store, s, w, chosen, files, start, hcheck⟩ := exists_of_storePasses hcheck
  simp only [Bool.and_eq_true, decide_eq_true_eq, Bool.not_eq_true'] at hcheck
  obtain ⟨⟨⟨⟨⟨⟨hpending, hlinks⟩, hbuffer⟩, hfile⟩, hok⟩, hgone⟩, hmissing⟩ := hcheck
  obtain ⟨store', dir, hdestination, hdir, survives⟩ :=
    object_survives_iff chosen files start oneLeft_sound (by decide)
  obtain ⟨other, key, hother, hkey, survives⟩ := survives _ ⟨"buf/event-bundle.1".toList⟩ .start
    (by simp [hpending])
  obtain rfl : dir = [['w'], "buf".toList] := Option.some.inj (hdir.symm.trans hbuffer)
  obtain rfl : "event-bundle.1".toList = other := by
    have hname : Path.fileName? ⟨"buf/event-bundle.1".toList⟩ = some "event-bundle.1".toList := by
      decide
    exact Option.some.inj (hname.symm.trans hother)
  have sound : w.disk.Sound := by
    obtain ⟨_, w₁, _, hopen, hsound, -⟩ := Sink.start_store start
    exact (Sink.opened_of_openLive hopen).sound (hsound oneLeft_sound)
  have hdone : ((Upload.ofPath ⟨"buf/event-bundle.1".toList⟩).run (.store store') w).1.result?
      = some (.ok ()) := by
    rw [uploadedFirst, hpending, hdestination, Option.any_eq_true] at hok
    obtain ⟨result, hresult, hbool⟩ := hok
    cases result with
    | ok => exact hresult
    | error e => exact absurd hbool (by simp [Except.toBool])
  refine ⟨store, s, w, _, key, chosen, start, hpending, hgone, ?_⟩
  have hobject := (survives store' w [97] rfl rfl rfl sound hdir
    (fun _ target => Disk.not_link hlinks _ target) hfile hdone).mpr ?_
  · rw [uploadedFirst, hpending, hdestination]
    exact hobject
  · rintro ⟨hgoal, -⟩
    rw [objectMissing, hdestination] at hmissing
    simp only [hkey, hgoal] at hmissing
    exact absurd hmissing (by simp [Except.toBool])

/-- A store in the buffer directory: the sink starts, and an upload that ends with a success removes
the object. -/
theorem object_removed_with_file :
    ∃ store s w, ObjectStore.ofUrlText "file:///w/buf".toList = .ok store ∧
      Sink.start { Settings.default with connection := "buf:".toList } (some (.store store))
        (.fresh ['w']) = (.ok s, w) ∧
      ∀ c s' w', c = ((Course.mk s w []).output [97]).rollOver →
        (s', w') = c.sink.advanceUploads c.world →
        c.accepted = [[97]] ∧ s'.outcomes.map (fun outcome => outcome.result.toBool) = [true] ∧
          (∃ store' q key, s.destination = .store store' ∧ q ∈ c.rolled ∧
            store'.keyFor q = .ok key ∧ Shelf.objectAt? w'.disk key = none) ∧
          ∀ loc bytes, w'.disk.fileAt? loc = some bytes → ¬ [97] <:+: bytes := by
  have hcheck : storePasses "file:///w/buf".toList
      { Settings.default with connection := "buf:".toList } (.fresh ['w']) (fun s w =>
        let c := ((Course.mk s w []).output [97]).rollOver
        let after := c.sink.advanceUploads c.world
        c.accepted = [[97]] &&
          (after.1.outcomes.map fun outcome => outcome.result.toBool) = [true] &&
          c.rolled.any (objectGone s after.2) && !after.2.disk.holdsPart [97]) = true := by
    decide +kernel
  obtain ⟨store, s, w, chosen, -, start, hcheck⟩ := exists_of_storePasses hcheck
  simp only [Bool.and_eq_true, decide_eq_true_eq, Bool.not_eq_true', List.any_eq_true] at hcheck
  obtain ⟨⟨⟨haccepted, houtcomes⟩, q, hq, hobject⟩, hlost⟩ := hcheck
  refine ⟨store, s, w, chosen, start, ?_⟩
  rintro c s' w' rfl hafter
  have hs' : s' = _ := congrArg Prod.fst hafter
  have hw' : w' = _ := congrArg Prod.snd hafter
  rw [hs', hw']
  obtain ⟨store', key, hdestination, hkey, hgone⟩ := exists_of_objectGone hobject
  exact ⟨haccepted, houtcomes, ⟨store', q, key, hdestination, hq, hkey, hgone⟩,
    fun loc bytes hfile => Disk.not_part_of_file hlost hfile⟩

end Runs

end Course

end Outbox
