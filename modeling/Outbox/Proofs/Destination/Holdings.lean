import Outbox.Proofs.Destination.Archive
import Outbox.Proofs.Destination.Store

/-!
# What a destination holds

Where a destination puts a file (`place?`), and what it has there (`Holds`). The place is a name in
the directory of the destination, or a key among its keys, and depends on the name of the file
alone. So two files of one name have one place, and a delivery takes away what its place held
before.
-/

set_option autoImplicit false

namespace Outbox

/-! ### Shelves -/

namespace Shelf

/-- The place of an object: a name in the directory of the objects, or its key. -/
def place? (shelf : Shelf) (key : ObjectKey) : Option (List Name) :=
  match shelf with
  | .memory _ => some key.segments
  | .files => (pathOf key).fileName?.map ([·])
  | .remote _ => none

/-- Whether there are these bytes at a place. The directory of the objects is `dest`. -/
def Holds (shelf : Shelf) (dest : Location) (d : Disk) (place : List Name) (bytes : Bytes) : Prop :=
  match shelf with
  | .memory objects => objects.lookup ⟨place⟩ = some bytes
  | .files => d.fileAt? (dest ++ place) = some bytes
  | .remote _ => False

def isFiles : Shelf → Bool
  | .files => true
  | _ => false

def Like : Shelf → Shelf → Prop
  | .memory _, .memory _ => True
  | .files, .files => True
  | .remote _, .remote _ => True
  | _, _ => False

theorem Like.refl (shelf : Shelf) : shelf.Like shelf := by
  cases shelf <;> trivial

theorem Like.trans {shelf shelf' shelf'' : Shelf} (h : shelf.Like shelf')
    (h' : shelf'.Like shelf'') : shelf.Like shelf'' := by
  match shelf, shelf', shelf'', h, h' with
  | .memory _, .memory _, .memory _, _, _ => trivial
  | .files, .files, .files, _, _ => trivial
  | .remote _, .remote _, .remote _, _, _ => trivial

theorem Like.place? {shelf shelf' : Shelf} (h : shelf.Like shelf') (key : ObjectKey) :
    shelf'.place? key = shelf.place? key := by
  cases shelf <;> cases shelf' <;> first | rfl | exact h.elim

theorem Like.isFiles {shelf shelf' : Shelf} (h : shelf.Like shelf') :
    shelf'.isFiles = shelf.isFiles := by
  cases shelf <;> cases shelf' <;> first | rfl | exact h.elim

/-- The new files of a disk are in one directory. -/
def Lands (dest : Location) (d d' : Disk) : Prop :=
  ∀ {loc : Location} {name : Name} {id : Nat}, d'.node? (loc ++ [name]) = some (.file id) →
    d.node? (loc ++ [name]) = some (.file id) ∨ loc = dest

/-- What a put comes to. -/
structure Stores (shelf : Shelf) (dest : Location) (key : ObjectKey) (bytes : Bytes) (w : World)
    (result : Except StoreError Unit × Shelf × World) : Prop where
  like : shelf.Like result.2.1
  kept : ∀ {place : List Name} {held : Bytes}, (shelf.isFiles = true → ∃ name, place = [name]) →
    shelf.Holds dest w.disk place held → result.2.1.Holds dest result.2.2.disk place held ∨
      (result.1 = .ok () ∧ shelf.place? key = some place)
  placed : result.1 = .ok () → (shelf.isFiles = true → Lands dest w.disk result.2.2.disk) →
    ∃ place, shelf.place? key = some place ∧ result.2.1.Holds dest result.2.2.disk place bytes
  disk : shelf.isFiles = false → result.2.2.disk = w.disk

theorem stores_memory (objects : List (ObjectKey × Bytes)) (dest : Location) (key : ObjectKey)
    (bytes : Bytes) (w : World) :
    Stores (.memory objects) dest key bytes w (put (.memory objects) key bytes w) := by
  have hlookup : ∀ other : ObjectKey,
      ((objects.filter fun object => object.1 ≠ key) ++ [(key, bytes)]).lookup other
        = if other = key then some bytes else objects.lookup other := by
    intro other
    have hfilter := Disk.lookup_filter (fun k => decide (k ≠ key)) other objects
    rw [List.lookup_append, hfilter]
    by_cases hkey : other = key
    · simp [hkey]
    · cases hother : objects.lookup other <;> simp [hkey, List.lookup_cons, beq_false_of_ne hkey]
  refine ⟨trivial, fun {place held} _ hheld => ?_, fun _ _ => ⟨key.segments, rfl, ?_⟩, fun _ => rfl⟩
  · by_cases hkey : (⟨place⟩ : ObjectKey) = key
    · exact .inr ⟨rfl, by rw [← hkey]; rfl⟩
    · refine .inl ?_
      change List.lookup _ _ = _
      rw [hlookup, if_neg hkey]
      exact hheld
  · change List.lookup _ _ = _
    rw [hlookup, if_pos rfl]

theorem stores_files (dest : Location) (key : ObjectKey) (bytes : Bytes) {w : World}
    (sound : w.disk.Sound) : Stores .files dest key bytes w (put .files key bytes w) := by
  have puts := putFile_puts key bytes sound
  rw [put]
  cases hput : putFile key bytes w with
  | mk result w' =>
    rw [hput] at puts
    refine ⟨trivial, fun {place held} hplace hheld => ?_, fun hok hlands => ?_,
      fun h => absurd h (by simp [isFiles])⟩
    · obtain ⟨name, rfl⟩ := hplace rfl
      obtain ⟨id, hnode, hcontent⟩ := Disk.node_of_fileAt? hheld
      rcases puts.kept hnode with ⟨hnode', hcontent'⟩ | ⟨hok, dir, name', hloc, hname⟩
      · refine .inl ?_
        change w'.disk.fileAt? (dest ++ [name]) = some held
        rw [Disk.fileAt?_of_node hnode', hcontent', hcontent]
      · obtain ⟨-, heq⟩ := List.append_inj' hloc rfl
        refine .inr ⟨hok, ?_⟩
        rw [place?, hname, heq]
        rfl
    · obtain ⟨dir, name, id, hname, hid, hnode, hcontent⟩ := puts.placed hok
      refine ⟨[name], by rw [place?, hname]; rfl, ?_⟩
      rcases hlands rfl hnode with hbefore | rfl
      · have := sound.numbered hbefore
        omega
      · change w'.disk.fileAt? (dir ++ [name]) = some bytes
        rw [Disk.fileAt?_of_node hnode, hcontent]

theorem put_stores (shelf : Shelf) (dest : Location) (key : ObjectKey) (bytes : Bytes) {w : World}
    (sound : w.disk.Sound) : Stores shelf dest key bytes w (shelf.put key bytes w) := by
  cases shelf with
  | memory objects => exact stores_memory objects dest key bytes w
  | files => exact stores_files dest key bytes sound
  | remote kind =>
    exact ⟨trivial, fun _ hheld => hheld.elim, fun hok => absurd hok (by simp [put]), fun _ => rfl⟩

end Shelf

/-! ### Stores -/

namespace ObjectStore

def place? (s : ObjectStore) (q : Path) : Option (List Name) :=
  match s.keyFor q with
  | .error _ => none
  | .ok key => s.shelf.place? key

structure Like (s s' : ObjectStore) : Prop where
  base : s'.base = s.base
  front : s'.front = s.front
  shelf : s.shelf.Like s'.shelf

theorem Like.place? {s s' : ObjectStore} (h : s.Like s') (q : Path) :
    s'.place? q = s.place? q := by
  rw [ObjectStore.place?, ObjectStore.place?, keyFor, keyFor, h.base, h.front]
  split
  · rfl
  · exact h.shelf.place? _

/-- What a turn of a delivery to a store comes to. -/
structure Serves (s : ObjectStore) (dest : Location) (path : Path) (bytes : Bytes) (w : World)
    (result : Turn × ObjectStore × World) : Prop where
  ended : ∃ outcome, result.1 = .ended outcome
  like : s.Like result.2.1
  kept : ∀ {place : List Name} {held : Bytes}, (s.shelf.isFiles = true → ∃ name, place = [name]) →
    s.shelf.Holds dest w.disk place held →
      result.2.1.shelf.Holds dest result.2.2.disk place held ∨
        (result.1 = .ended (.ok ()) ∧ s.place? path = some place)
  placed : result.1 = .ended (.ok ()) →
    (s.shelf.isFiles = true → Shelf.Lands dest w.disk result.2.2.disk) →
      ∃ place, s.place? path = some place ∧
        result.2.1.shelf.Holds dest result.2.2.disk place bytes
  disk : s.shelf.isFiles = false → ∃ faults, result.2.2.disk = { w.disk with faults }

theorem holds_faults {shelf : Shelf} {dest : Location} {d : Disk} {place : List Name}
    {bytes : Bytes} (faults : List (Option OsError)) :
    shelf.Holds dest { d with faults } place bytes ↔ shelf.Holds dest d place bytes := by
  cases shelf <;> exact Iff.rfl

theorem turn_serves (s : ObjectStore) (dest : Location) (path : Path) (id : Nat) {w : World}
    (sound : w.disk.Sound) :
    Serves s dest path (w.disk.content id) w (s.turn path (.file id) w) := by
  -- a delivery that ends before the put
  have refused : ∀ (e : UploadError) (faults : List (Option OsError)) (w' : World),
      w'.disk = { w.disk with faults } → Serves s dest path (w.disk.content id) w
        (.ended (.error e), { s with tally := s.tally.failed }, w') := by
    intro e faults w' hdisk
    refine ⟨⟨_, rfl⟩, ⟨rfl, rfl, .refl _⟩, fun _ hheld => .inl ?_, fun h => absurd h (by simp),
      fun _ => ⟨faults, hdisk⟩⟩
    rw [hdisk]
    exact (holds_faults faults).mpr hheld
  rw [turn, putContent]
  cases hkey : s.keyFor path with
  | error e => exact refused e w.disk.faults w rfl
  | ok key =>
    have hplace : s.place? path = s.shelf.place? key := by rw [place?, hkey]
    cases hread : w.attempt (Disk.read (.file id)) with
    | mk read w₁ =>
      cases read with
      | error e =>
        obtain ⟨faults, rfl⟩ := World.attempt_error hread
        exact refused (.io e) faults _ rfl
      | ok bytes =>
        obtain ⟨faults, disk, hop, rfl⟩ := World.attempt_ok hread
        simp only [Disk.read, Except.ok.injEq, Prod.mk.injEq] at hop
        obtain ⟨rfl, rfl⟩ := hop
        have stores := s.shelf.put_stores dest key (w.disk.content id)
          (w := { w with disk := { w.disk with faults } }) (sound.withFaults faults)
        simp only [Disk.content_faults]
        cases hput : s.shelf.put key (w.disk.content id)
            { w with disk := { w.disk with faults } } with
        | mk outcome after =>
          obtain ⟨shelf, w₂⟩ := after
          rw [hput] at stores
          cases outcome with
          | error e =>
            refine ⟨⟨_, rfl⟩, ⟨rfl, rfl, stores.like⟩, fun hfiles hheld => ?_,
              fun h => absurd h (by simp), fun hfiles => ⟨faults, stores.disk hfiles⟩⟩
            rcases stores.kept hfiles ((holds_faults faults).mpr hheld) with hkept | ⟨hok, -⟩
            · exact .inl hkept
            · exact absurd hok (by simp)
          | ok =>
            refine ⟨⟨_, rfl⟩, ⟨rfl, rfl, stores.like⟩, fun hfiles hheld => ?_,
              fun _ hlands => ?_, fun hfiles => ⟨faults, stores.disk hfiles⟩⟩
            · rcases stores.kept hfiles ((holds_faults faults).mpr hheld) with hkept | ⟨-, hsame⟩
              · exact .inl hkept
              · exact .inr ⟨rfl, hplace.trans hsame⟩
            · obtain ⟨place, hsame, hheld⟩ := stores.placed rfl hlands
              exact ⟨place, hplace.trans hsame, hheld⟩

end ObjectStore

/-! ### Destinations -/

namespace Destination

/-- The place that a file gets at a destination: a name in its directory, or a key. -/
def place? (b : Destination) (q : Path) : Option (List Name) :=
  match b with
  | .archive _ => q.fileName?.map ([·])
  | .store s => s.place? q
  | .scripted _ => none

/-- Whether a destination has these bytes at a place. Its directory, if it has one, is `dest`. -/
def Holds (b : Destination) (dest : Location) (d : Disk) (place : List Name) (bytes : Bytes) :
    Prop :=
  match b with
  | .archive _ => d.fileAt? (dest ++ place) = some bytes
  | .store s => s.shelf.Holds dest d place bytes
  | .scripted _ => False

def isFiles : Destination → Bool
  | .archive _ => true
  | .store s => s.shelf.isFiles
  | .scripted _ => false

def Like : Destination → Destination → Prop
  | .archive a, .archive a' => a'.directory = a.directory
  | .store s, .store s' => s.Like s'
  | _, _ => False

/-- What a destination has is left alone, and the path of an archive leads nowhere else. -/
structure Preserved (b : Destination) (dest : Location) (d d' : Disk) : Prop where
  leads : ∀ a, b = .archive a → Archive.Leads d a.directory dest → Archive.Leads d' a.directory dest
  nodes : b.isFiles = true → ∀ name, d'.node? (dest ++ [name]) = d.node? (dest ++ [name])
  contents : b.isFiles = true → ∀ {name : Name} {id : Nat},
    d.node? (dest ++ [name]) = some (.file id) → d'.content id = d.content id

section Like

variable {b b' : Destination}

theorem Like.place? (h : b.Like b') (q : Path) : b'.place? q = b.place? q := by
  cases b <;> cases b' <;> first | rfl | exact h.elim | exact ObjectStore.Like.place? h q

theorem Like.isFiles (h : b.Like b') : b'.isFiles = b.isFiles := by
  cases b <;> cases b' <;> first | rfl | exact h.elim | exact (ObjectStore.Like.shelf h).isFiles

theorem Like.of_store {s : ObjectStore} (h : b.Like (.store s)) :
    ∃ s₀, b = .store s₀ ∧ s₀.Like s := by
  cases b with
  | store s₀ => exact ⟨s₀, rfl, h⟩
  | archive a => exact h.elim
  | scripted s => exact h.elim

theorem Like.of_archive {a : Archive} (h : b.Like (.archive a)) : ∃ a₀, b = .archive a₀ := by
  cases b with
  | archive a₀ => exact ⟨a₀, rfl⟩
  | store s => exact h.elim
  | scripted s => exact h.elim

theorem not_like_scripted {s : Scripted} : ¬ b.Like (.scripted s) := by
  intro h
  cases b <;> exact h.elim

theorem Like.trans {b'' : Destination} (h : b.Like b') (h' : b'.Like b'') : b.Like b'' := by
  match b, b', b'', h, h' with
  | .archive _, .archive _, .archive _, h, h' => exact Eq.trans h' h
  | .store _, .store _, .store _, h, h' =>
    exact ⟨h'.base.trans h.base, h'.front.trans h.front, h.shelf.trans h'.shelf⟩

end Like

variable {b : Destination} {dest : Location} {d d' : Disk} {place : List Name} {bytes : Bytes}

theorem Holds.unique {bytes' : Bytes} (h : b.Holds dest d place bytes)
    (h' : b.Holds dest d place bytes') : bytes = bytes' := by
  match b, h, h' with
  | .archive _, h, h' => exact Option.some.inj (Eq.trans (Eq.symm h) h')
  | .store { shelf := .memory _, .. }, h, h' => exact Option.some.inj (Eq.trans (Eq.symm h) h')
  | .store { shelf := .files, .. }, h, h' => exact Option.some.inj (Eq.trans (Eq.symm h) h')

theorem place_of_isFiles {q : Path} (hfiles : b.isFiles = true) (hplace : b.place? q = some place) :
    ∃ name, place = [name] := by
  have named : ∀ name : Option Name, name.map ([·]) = some place → ∃ name, place = [name] := by
    intro name hname
    obtain ⟨name, -, rfl⟩ := Option.map_eq_some_iff.mp hname
    exact ⟨name, rfl⟩
  match b, hfiles, hplace with
  | .archive _, _, hplace => exact named _ hplace
  | .store { shelf := .files, .. }, _, hplace =>
    simp only [place?, ObjectStore.place?] at hplace
    split at hplace
    · exact absurd hplace (by simp)
    · exact named _ hplace

/-- A destination that is left alone has what it had. -/
theorem Holds.of_preserved {q : Path} (h : b.Holds dest d place bytes)
    (hplace : b.place? q = some place) (preserved : b.Preserved dest d d') :
    b.Holds dest d' place bytes := by
  have file : b.isFiles = true → d.fileAt? (dest ++ place) = some bytes →
      d'.fileAt? (dest ++ place) = some bytes := by
    intro hfiles hfile
    obtain ⟨name, rfl⟩ := place_of_isFiles hfiles hplace
    obtain ⟨id, hnode, hcontent⟩ := Disk.node_of_fileAt? hfile
    rw [Disk.fileAt?_of_node ((preserved.nodes hfiles name).trans hnode),
      preserved.contents hfiles hnode, hcontent]
  match b, h, file with
  | .archive _, h, file => exact file rfl h
  | .store { shelf := .memory _, .. }, h, _ => exact h
  | .store { shelf := .files, .. }, h, file => exact file rfl h

theorem Preserved.of_like {b' : Destination} (preserved : b.Preserved dest d d') (h : b.Like b') :
    b'.Preserved dest d d' where
  leads := by
    rintro a' rfl hleads
    match b, preserved, h with
    | .archive a, preserved, h =>
      have hdirectory : a'.directory = a.directory := h
      rw [hdirectory] at hleads ⊢
      exact preserved.leads a rfl hleads
  nodes := fun hfiles => preserved.nodes (h.isFiles ▸ hfiles)
  contents := fun hfiles _ _ => preserved.contents (h.isFiles ▸ hfiles)

/-- An archive or a store lets no delivery wait, so there is none to be ended. -/
theorem Like.release {b' : Destination} (h : b.Like b') (u : Upload) (action : Action) (w : World) :
    u.release action b' w = (u, b', w) := by
  have hact : ∀ source : Handle, b'.act u.path source action w = (.next .held, b', w) := by
    intro source
    match b, b', h with
    | .archive _, .archive _, _ => rfl
    | .store _, .store _, _ => rfl
  obtain ⟨path, phase⟩ := u
  rw [Upload.release]
  split
  · next source hphase =>
    dsimp only at hphase
    rw [hact source, hphase]
    rfl
  · rfl

end Destination

end Outbox
