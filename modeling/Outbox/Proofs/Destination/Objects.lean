import Outbox.Proofs.Destination.Store
import Outbox.Proofs.Disk.Making
import Outbox.Upload

/-!
# Objects that are kept in files

An object is found under the path of its key. A put that succeeds has made the directories of that
path where they were missing, and has left the object there, if no link stood in its place. Where
the path leads does not change by it: it is the path of the object that decides whether an upload
has put it onto the very file that it then removes.
-/

set_option autoImplicit false

namespace Outbox

/-! ### Names of keys -/

namespace Percent

theorem slash_not_mem_triple (b : UInt8) : '/' ∉ triple b := by
  have digit : ∀ n < 16, '/' ≠ Digits.upperHex n := by decide
  have hsize : b.toNat < 256 := b.toNat_lt
  rw [triple]
  simp only [List.mem_cons, List.not_mem_nil, or_false, not_or]
  exact ⟨by decide, digit _ (by omega), digit _ (by omega)⟩

theorem encode_eq_or_mem (reserved : Char → Bool) (text : Text) :
    encode reserved text = text ∨ '%' ∈ encode reserved text := by
  induction text with
  | nil => exact .inl rfl
  | cons c rest ih =>
    have hcons : encode reserved (c :: rest)
        = (if reserved c || 128 ≤ c.toNat then (String.utf8EncodeChar c).flatMap triple else [c])
          ++ encode reserved rest := rfl
    rw [hcons]
    split
    · refine .inr (List.mem_append_left _ ?_)
      obtain ⟨b, hb⟩ := List.exists_mem_of_ne_nil _ (@String.utf8EncodeChar_ne_nil c)
      exact List.mem_flatMap.mpr ⟨b, hb, by simp [triple]⟩
    · rcases ih with heq | hmem
      · exact .inl (by rw [heq]; rfl)
      · exact .inr (List.mem_append_right _ hmem)

theorem slash_not_mem_encode {reserved : Char → Bool} (hslash : reserved '/' = true)
    (text : Text) : '/' ∉ encode reserved text := by
  intro hmem
  obtain ⟨c, -, hc⟩ := List.mem_flatMap.mp hmem
  split at hc
  · obtain ⟨b, -, hb⟩ := List.mem_flatMap.mp hc
    exact slash_not_mem_triple b hb
  · next hfree =>
    obtain rfl : '/' = c := by simpa using hc
    simp [hslash] at hfree

end Percent

namespace ObjectKey

def names (key : ObjectKey) : List Name :=
  key.segments.map Shelf.nameOf

/-- A key whose segments are names that entries can have. -/
def Proper (key : ObjectKey) : Prop :=
  ∀ segment ∈ key.segments, Plain segment

theorem plain_nameOf {segment : Text} (plain : Plain segment) : Plain (Shelf.nameOf segment) := by
  rw [Shelf.nameOf]
  split
  · refine ⟨by simp, ?_, ?_, ?_⟩
    · intro hmem
      rcases List.mem_append.mp hmem with hmem | hmem
      · exact plain.no_slash (List.mem_of_mem_take hmem)
      · exact absurd hmem (by decide)
    all_goals
      intro heq
      have hlast := congrArg List.getLast? heq
      simp at hlast
  · exact plain

theorem Proper.plain_names {key : ObjectKey} (proper : key.Proper) :
    ∀ name ∈ key.names, Plain name := by
  intro name hmem
  obtain ⟨segment, hsegment, rfl⟩ := List.mem_map.mp hmem
  exact plain_nameOf (proper segment hsegment)

theorem checked_ok {path : Text} {segments out : List Text}
    (h : checked path segments = .ok out) : out = segments ∧ ∀ segment ∈ segments,
      segment ≠ [] ∧ segment ≠ ['.'] ∧ segment ≠ ['.', '.'] := by
  induction segments generalizing out with
  | nil => exact ⟨(Except.ok.inj h).symm, by simp⟩
  | cons segment rest ih =>
    rw [checked] at h
    split at h
    · exact absurd h (by simp)
    · next hne =>
      split at h
      · exact absurd h (by simp)
      · next hlegal =>
        cases hrest : checked path rest with
        | error e => rw [hrest] at h; exact absurd h (by simp [Except.map])
        | ok others =>
          rw [hrest] at h
          obtain ⟨rfl, hothers⟩ := ih hrest
          refine ⟨(Except.ok.inj h).symm, fun other hmem => ?_⟩
          rcases List.mem_cons.mp hmem with rfl | hmem
          · rw [illegalIn?] at hlegal
            split at hlegal
            · exact absurd hlegal (by simp)
            · next hdots =>
              simp only [Bool.or_eq_true, decide_eq_true_eq, not_or] at hdots
              exact ⟨hne, hdots.1, hdots.2⟩
          · exact hothers other hmem

theorem proper_of_checked {text body : Text} {key : ObjectKey}
    (h : (checked text (Path.pieces body)).map ObjectKey.mk = .ok key) : key.Proper := by
  cases hchecked : checked text (Path.pieces body) with
  | error e => rw [hchecked] at h; exact absurd h (by simp [Except.map])
  | ok segments =>
    rw [hchecked] at h
    obtain ⟨rfl, hsegments⟩ := checked_ok hchecked
    rw [← Except.ok.inj h]
    intro segment hmem
    obtain ⟨hne, hdot, hup⟩ := hsegments segment hmem
    exact ⟨hne, Path.no_slash_of_mem_pieces hmem, hdot, hup⟩

theorem proper_of_ofText {text : Text} {key : ObjectKey} (h : ofText text = .ok key) :
    key.Proper := by
  simp only [ofText] at h
  generalize (if text.head? = some '/' then text.drop 1 else text) = body at h
  split at h
  · rw [← Except.ok.inj h]
    intro segment hmem
    exact absurd hmem (by simp [empty])
  · exact proper_of_checked h

/-- Whatever the name of a file, its segment is one that an entry can have. -/
theorem plain_segmentOfName {name : Name} (named : name ≠ []) : Plain (segmentOfName name) := by
  rw [segmentOfName]
  split
  · next hdots =>
    simp only [Bool.or_eq_true, decide_eq_true_eq] at hdots
    rcases hdots with rfl | rfl
    all_goals exact ⟨by decide, by decide, by decide, by decide⟩
  next hdots =>
  simp only [Bool.or_eq_true, decide_eq_true_eq, not_or] at hdots
  have hno_slash : '/' ∉ Percent.encode isReserved name :=
    Percent.slash_not_mem_encode (by decide) name
  rcases Percent.encode_eq_or_mem isReserved name with heq | hmem
  · rw [heq] at hno_slash ⊢
    exact ⟨named, hno_slash, hdots.1, hdots.2⟩
  · refine ⟨List.ne_nil_of_mem hmem, hno_slash, ?_, ?_⟩
    all_goals
      intro heq
      rw [heq] at hmem
      exact absurd hmem (by decide)

theorem proper_ofName {base front : ObjectKey} {name : Name} (hbase : base.Proper)
    (hfront : front.Proper) (named : name ≠ []) : (ofName base front name).Proper := by
  intro segment hmem
  simp only [ofName, List.mem_append, List.mem_singleton] at hmem
  rcases hmem with (hmem | hmem) | rfl
  · exact hbase segment hmem
  · exact hfront segment hmem
  · exact plain_segmentOfName named

end ObjectKey

namespace Shelf

variable {d d₁ d₂ : Disk} {key : ObjectKey} {bytes : Bytes} {w w' : World}
  {front : List Name} {name : Name} {dest : Location}

/-- The content of the object under a key: that of the regular file to which its path leads. -/
def objectAt? (d : Disk) (key : ObjectKey) : Option Bytes :=
  match d.find (pathOf key) with
  | .ok (_, .file id) => some (d.content id)
  | _ => none

theorem objectAt?_of_goal (hgoal : d.goal (pathOf key) = .ok (.entry dest name, false))
    (hsize : Utf8.size name ≤ maxNameSize) (hlink : d.Linkless (dest ++ [name])) :
    objectAt? d key = d.fileAt? (dest ++ [name]) := by
  have hentry : d.nodeIn? dest name = .ok (d.node? (dest ++ [name])) := Disk.nodeIn?_of_size hsize
  cases hnode : d.node? (dest ++ [name]) with
  | some node =>
    rw [hnode] at hentry
    rw [objectAt?, Disk.find_of_goal hgoal hentry fun target heq => hlink target (heq ▸ hnode),
      Disk.fileAt?, hnode]
    cases node <;> rfl
  | none =>
    rw [objectAt?, Disk.fileAt?, hnode]
    cases hfind : d.find (pathOf key) with
    | error e => rfl
    | ok found =>
      obtain ⟨loc, node⟩ := found
      obtain ⟨rfl, hnode'⟩ := (Disk.only_of_goal hgoal).2.find hlink hfind
      rw [hnode] at hnode'
      exact absurd hnode' (by simp)

/-! ### Paths of objects -/

theorem pathOf_eq (h : (pathOf key).chars.getLast? ≠ some '/') :
    pathOf key = .ofNames key.names := by
  rw [pathOf] at h ⊢
  dsimp only at h ⊢
  split
  · next hdrive =>
    rw [if_pos hdrive] at h
    exact absurd List.getLast?_concat h
  · rfl

theorem stagedPath_ofNames (n : Nat) : stagedPath (.ofNames (front ++ [name])) n
    = .ofNames (front ++ [name ++ '#' :: Digits.decimal n]) := by
  rw [stagedPath, Path.ofNames, Path.ofNames, List.cons_append, Path.glue_append_text]

theorem plain_staged (plain : Plain name) (n : Nat) : Plain (name ++ '#' :: Digits.decimal n) := by
  have hmark : '#' ∈ name ++ '#' :: Digits.decimal n := by simp
  refine ⟨List.ne_nil_of_mem hmark, ?_, ?_, ?_⟩
  · intro hmem
    rcases List.mem_append.mp hmem with hmem | hmem
    · exact plain.no_slash hmem
    · rcases List.mem_cons.mp hmem with heq | hmem
      · exact absurd heq (by decide)
      · exact Pattern.no_slash_of_digits hmem
  all_goals
    intro heq
    rw [heq] at hmark
    exact absurd hmark (by decide)

theorem parent?_stagedPath (plain : ∀ piece ∈ front ++ [name], Plain piece) (n : Nat) :
    (stagedPath (.ofNames (front ++ [name])) n).parent? = some (.ofNames front) := by
  rw [stagedPath_ofNames, Path.parent?_ofNames]
  intro piece hmem
  rcases List.mem_append.mp hmem with hmem | hmem
  · exact plain piece (List.mem_append_left _ hmem)
  · rw [List.mem_singleton.mp hmem]
    exact plain_staged (plain name (by simp)) n

/-! ### Puts that succeed -/

/-- The search for a staging path does not make the directory of the object another one. -/
theorem openStaged_back (plain : ∀ piece ∈ front ++ [name], Plain piece) (tries n : Nat) {w : World}
    (sound : w.disk.Sound) {handle : Handle} {p : Path}
    (h : openStaged (.ofNames (front ++ [name])) tries n w = (.ok (handle, p), w')) :
    w.disk.Back w'.disk (.ofNames front) := by
  induction tries generalizing n w with
  | zero => exact absurd h (by simp [openStaged])
  | succ tries ih =>
    rw [openStaged] at h
    dsimp only at h
    split at h
    · next w₁ hcreate =>
      obtain ⟨faults, disk, hop, rfl⟩ := World.attempt_ok hcreate
      simp only [Prod.mk.injEq, Except.ok.injEq] at h
      rw [← h.2]
      rw [Disk.createNew] at hop
      split at hop
      · exact absurd hop (by simp)
      next loc hspot =>
      obtain ⟨dir, last, slash, rfl, hgoal, hfree, -⟩ := Disk.freeSpot_ok hspot
      split at hop
      · exact absurd hop (by simp)
      simp only [Except.ok.injEq, Prod.mk.injEq] at hop
      rw [← hop.2]
      exact ((Disk.narrows_faults w.disk faults).trans
        (Disk.narrows_putNewFile _ (dir ++ [last]) (by simp))).back
    · next w₁ hcreate =>
      obtain ⟨faults, rfl⟩ := World.attempt_error hcreate
      exact (Disk.narrows_faults w.disk faults).back.trans
        (ih (n + 1) (sound.withFaults faults) h) (Disk.grows_faults w.disk faults)
    · next w₁ hcreate =>
      obtain ⟨faults, rfl⟩ := World.attempt_error hcreate
      rw [parent?_stagedPath plain, Option.getD_some] at h
      split at h
      · next disk hmkdirs =>
        have hfront : ∀ piece ∈ front, Plain piece :=
          fun piece hmem => plain piece (List.mem_append_left _ hmem)
        have made := Disk.mkdirs_made hfront (sound.withFaults faults) hmkdirs
        have grows := Disk.mkdirs_grows { w.disk with faults } (.ofNames front)
        rw [hmkdirs] at grows
        have hback := (Disk.narrows_faults w.disk faults).back.trans made.back
          (Disk.grows_faults w.disk faults)
        exact hback.trans (ih n (grows.sound (sound.withFaults faults)) h)
          ((Disk.grows_faults w.disk faults).trans grows)
      · exact absurd h (by simp)
    · exact absurd h (by simp)

/-- A put that has succeeded has written a staged file and given it its name. -/
theorem putFile_ok (sound : w.disk.Sound) (h : putFile key bytes w = (.ok (), w')) :
    ∃ p w₁ d₁ dir name id,
      openStaged (pathOf key) (w.disk.nodes.length + 2) 1 w = (.ok (.file id, p), w₁) ∧
        w.disk.Grows w₁.disk ∧ d₁.start = w₁.disk.start ∧
        (∀ loc, d₁.node? loc = w₁.disk.node? loc) ∧ Draft w.disk d₁ p dir name id ∧
        d₁.content id = bytes ∧ Disk.rename p (pathOf key) d₁ = .ok ((), w'.disk) := by
  have hstaged := (openStaged_grows (pathOf key) (w.disk.nodes.length + 2) 1 w).2
  rw [putFile] at h
  split at h
  · exact absurd h (by simp)
  next handle p w₁ hopen =>
  rw [hopen] at hstaged
  obtain ⟨dir, name, id, rfl, staged⟩ := hstaged handle p rfl
  split at h
  · exact absurd h (by simp)
  next w₂ hwrite =>
  obtain ⟨faults, disk, hop, rfl⟩ := World.attempt_ok hwrite
  have hempty : Disk.content { w₁.disk with faults } id = [] := staged.empty
  simp only [Disk.write, hempty, List.nil_append, Except.ok.injEq, Prod.mk.injEq, true_and] at hop
  subst hop
  split at h
  · exact absurd h (by simp)
  next w₃ hrename =>
  obtain ⟨faults', disk, hop, rfl⟩ := World.attempt_ok hrename
  simp only [Prod.mk.injEq, true_and] at h
  have draft := (staged.draft sound).withFaults faults
  have hbytes := Disk.content_setContent { w₁.disk with faults } id id bytes
    (draft.sound.numbered draft.node)
  rw [if_pos rfl] at hbytes
  exact ⟨p, w₁, { ({ w₁.disk with faults } : Disk).setContent id bytes with faults := faults' },
    dir, name, id, hopen, staged.grows, rfl, fun _ => rfl,
    (draft.setContent sound bytes).withFaults faults', hbytes, h ▸ hop⟩

theorem keeps_move {old new : Location} {id : Nat} (sound : d.Sound)
    (hold : d.node? old = some (.file id)) (hdir : d.node? new ≠ some .dir) (hlink : d.Linkless new)
    (ne : old ≠ new) (hne : new ≠ []) : d.Keeps (d.move old new) := by
  have lookup := sound.node?_move hold (by simp) ne hne
  have hkeep : ∀ {loc : Location} {node : Node}, d.node? loc = some node → loc ≠ new →
      (∀ id, node ≠ .file id) → (d.move old new).node? loc = some node := by
    intro loc node hnode hnew hfile
    have hloc : loc ≠ old := by
      rintro rfl
      rw [hold, Option.some.injEq] at hnode
      exact hfile id hnode.symm
    rw [lookup, if_neg hnew, if_neg hloc]
    exact hnode
  refine ⟨rfl, fun {loc} hnode => ?_, fun {loc target} hnode => ?_⟩
  · exact hkeep hnode (fun heq => hdir (heq ▸ hnode)) (by simp)
  · exact hkeep hnode (fun heq => hlink target (heq ▸ hnode)) (by simp)

theorem keeps_take {place : Location} {id : Nat} (hplace : d.node? place = some (.file id))
    (hne : place ≠ []) : d.Keeps (d.take place) := by
  have hkeep : ∀ {loc : Location} {node : Node}, d.node? loc = some node →
      (∀ id, node ≠ .file id) → (d.take place).node? loc = some node := by
    intro loc node hnode hfile
    have hloc : loc ≠ place := by
      rintro rfl
      rw [hplace, Option.some.injEq] at hnode
      exact hfile id hnode.symm
    rw [Disk.node?_take _ _ _ hne, if_neg hloc]
    exact hnode
  exact ⟨rfl, fun hnode => hkeep hnode (by simp), fun hnode => hkeep hnode (by simp)⟩

/-- What a put that has succeeded leaves: the object at the end of its path, in a directory that was
there or new, and regular files where there were some. -/
structure Landed (key : ObjectKey) (bytes : Bytes) (d d' : Disk) (dest : Location) (name : Name) :
    Prop where
  sound : d'.Sound
  keeps : d.Keeps d'
  goal : d'.goal (pathOf key) = .ok (.entry dest name, false)
  size : Utf8.size name ≤ maxNameSize
  object : d'.fileAt? (dest ++ [name]) = some bytes
  back : d.goal (pathOf key) = .ok (.entry dest name, false) ∨ d.node? dest = none
  files : ∀ {loc : Location} {id : Nat}, d.node? loc = some (.file id) →
    ∃ id', d'.node? loc = some (.file id')

theorem back_of_staged {p : Path} {w₁ : World} {tries n : Nat} {handle : Handle}
    (proper : key.Proper) (sound : w.disk.Sound)
    (hopen : openStaged (pathOf key) tries n w = (.ok (handle, p), w₁))
    (hgoal : w₁.disk.goal (pathOf key) = .ok (.entry dest name, false)) :
    w.disk.goal (pathOf key) = .ok (.entry dest name, false) ∨ w.disk.node? dest = none := by
  obtain ⟨valid, hslash, -⟩ := Disk.goal_ok hgoal
  have hpath := pathOf_eq (of_decide_eq_false hslash.symm)
  obtain ⟨front, used, hsteps, hlast, -⟩ := Disk.steps_of_goal hgoal
  have hnames : key.names = front ++ [name] := by
    rw [← hsteps, hpath, Path.steps_ofNames proper.plain_names]
  have plain : ∀ piece ∈ front ++ [name], Plain piece := hnames ▸ proper.plain_names
  have hjoin : pathOf key = (Path.ofNames front).join name := by
    rw [hpath, hnames, Path.join_ofNames plain]
  rw [hpath, hnames] at hopen
  have hname : Plain name := plain name (by simp)
  obtain ⟨there, hentry, -, hdir⟩ := Disk.goal_join hname (hjoin ▸ hgoal)
  rw [Goal.entry.injEq] at hentry
  obtain ⟨rfl, -⟩ := hentry
  rcases openStaged_back plain tries n sound hopen dest hdir with hdir | hfree
  · left
    obtain ⟨-, used', hused, hwalk⟩ := Disk.dirOf?_iff.mp hdir
    rw [hjoin] at valid ⊢
    have horigin : w.disk.origin ((Path.ofNames front).join name)
        = w.disk.origin (.ofNames front) := by
      rw [Disk.origin, Disk.origin, Path.isAbsolute_join _ hname]
    have hwalk' := Disk.goal_of_walk valid (Path.steps_join _ hname) hname.last
      (horigin ▸ hwalk) hused
    rwa [← hjoin, ← hslash, hjoin] at hwalk'
  · exact .inr hfree

theorem putFile_landed (proper : key.Proper) (sound : w.disk.Sound)
    (linkless : ∀ {dest : Location} {name : Name},
      w.disk.goal (pathOf key) = .ok (.entry dest name, false) →
        w.disk.Linkless (dest ++ [name]))
    (h : putFile key bytes w = (.ok (), w')) :
    ∃ dest name, Landed key bytes w.disk w'.disk dest name := by
  obtain ⟨p, w₁, d₁, dir, last, id, hopen, grows, hstart, hnodes, draft, hbytes, hrename⟩ :=
    putFile_ok sound h
  obtain ⟨dir₁, name₁, slash, node, dest, name, slash', hgoal, hnode, hgoal', hentry, hmove⟩ :=
    Disk.rename_ok hrename
  -- the entry that is moved is the staged one
  obtain ⟨slash₀, hdraft⟩ := draft.goal
  rw [hdraft, Except.ok.injEq, Prod.mk.injEq, Goal.entry.injEq] at hgoal
  obtain ⟨⟨rfl, rfl⟩, rfl⟩ := hgoal
  obtain rfl : node = .file id := Option.some.inj ((Disk.nodeIn?_ok hnode).1.trans draft.node)
  obtain ⟨hslash, hcase⟩ := Disk.moveOnto_ok (by simp) hmove
  rw [Bool.or_eq_false_iff] at hslash
  rw [hslash.2] at hgoal'
  obtain ⟨-, hsize⟩ := Disk.nodeIn?_ok hentry
  -- where its new name is, is known from before
  have narrows : w₁.disk.Narrows d₁ :=
    ⟨hstart, fun hloc => hnodes _ ▸ hloc, fun hloc => hnodes _ ▸ hloc⟩
  have back := back_of_staged proper sound hopen (narrows.carries.goal hgoal')
  have hlink : d₁.Linkless (dest ++ [name]) := by
    intro target hnode
    have hnode := grows.links (narrows.links hnode)
    rcases back with hbefore | hfree
    · exact linkless hbefore target hnode
    · rw [sound.parent hnode] at hfree
      exact absurd hfree (by simp)
  have keeps₁ : w.disk.Keeps d₁ :=
    ⟨hstart.trans grows.start, fun hloc => hnodes _ ▸ grows.nodes hloc,
      fun hloc => hnodes _ ▸ grows.nodes hloc⟩
  refine ⟨dest, name, ?_⟩
  rcases hcase with ⟨heq, hsame⟩ | ⟨hne, hdir, hmoved⟩
  · refine ⟨hsame ▸ draft.sound, hsame ▸ keeps₁, hsame ▸ hgoal', hsize, ?_, back, ?_⟩
    · rw [hsame, ← heq, Disk.fileAt?_of_node draft.node, hbytes]
    · intro loc id' hfile
      exact ⟨id', hsame ▸ (draft.files hfile).2.1⟩
  · have keeps := keeps_move draft.sound draft.node hdir hlink hne (by simp)
    have lookup := draft.sound.node?_move draft.node (by simp) hne (by simp)
    rw [hmoved]
    refine ⟨draft.sound.move draft.node (by simp) (Disk.isDir_of_goal hgoal')
      (Disk.plain_of_goal hgoal') hdir hne, keeps₁.trans keeps, keeps.carries.goal hgoal', hsize,
      ?_, back, ?_⟩
    · have hnew : (d₁.move (dir ++ [last]) (dest ++ [name])).node? (dest ++ [name])
          = some (.file id) := by
        rw [lookup, if_pos rfl]
      rw [Disk.fileAt?_of_node hnew]
      exact congrArg some hbytes
    · intro loc id' hfile
      obtain ⟨hloc, hnode', -⟩ := draft.files hfile
      by_cases hnew : loc = dest ++ [name]
      · exact ⟨id, by rw [lookup, if_pos hnew]⟩
      · exact ⟨id', by rw [lookup, if_neg hnew, if_neg hloc]; exact hnode'⟩

end Shelf

/-! ### Uploads into files -/

namespace Upload

variable {b : Destination} {q : Path} {w : World}

theorem turns_ended (path : Path) (result : Except UploadError Unit) (n : Nat) :
    turns n { path, phase := .ended result } b w = ({ path, phase := .ended result }, b, w) := by
  induction n with
  | zero => rfl
  | succ n ih => exact ih

theorem turns_of_turn {u u' : Upload} {b' : Destination} {w' : World} (n : Nat)
    (h : u.turn b w = (u', b', w')) : turns (n + 1) u b w = turns n u' b' w' := by
  rw [turns, h]

/-- An upload to a store that ends with a success has read the file, put its content, and tried to
remove the file. -/
theorem run_store_ok {s : ObjectStore}
    (h : ((ofPath q).run (.store s) w).1.result? = some (.ok ())) :
    ∃ source w₁ n s' w₂, w.attempt (Disk.openRead q) = (.ok source, w₁) ∧
      s.putContent q source w₁ = (.ok n, s', w₂) ∧
      ((ofPath q).run (.store s) w).2.2.disk = (w₂.attempt (Disk.remove q)).2.disk := by
  have hrun : (ofPath q).run (.store s) w
      = turns (3 + 1 + 1 + 1) { path := q, phase := .opening } (.store s) w := rfl
  rw [hrun] at h ⊢
  cases hopen : w.attempt (Disk.openRead q) with
  | mk opened w₁ =>
    cases opened with
    | error e =>
      have hturn : turn { path := q, phase := .opening } (.store s) w
          = ({ path := q, phase := .ended (.error (.io e)) }, .store s, w₁) := by
        simp only [turn, hopen]
      rw [turns_of_turn _ hturn, turns_ended] at h
      exact absurd h (by simp [result?])
    | ok source =>
      have hturn : turn { path := q, phase := .opening } (.store s) w
          = ({ path := q, phase := .delivering source .begun }, .store s, w₁) := by
        simp only [turn, hopen]
      rw [turns_of_turn _ hturn] at h ⊢
      cases hput : s.putContent q source w₁ with
      | mk put after =>
        obtain ⟨s', w₂⟩ := after
        cases put with
        | error e =>
          have hturn : turn { path := q, phase := .delivering source .begun } (.store s) w₁
              = ({ path := q, phase := .ended (.error e) },
                .store { s' with tally := s'.tally.failed }, w₂) := by
            simp only [turn, Destination.turn, ObjectStore.turn, hput, afterTurn]
          rw [turns_of_turn _ hturn, turns_ended] at h
          exact absurd h (by simp [result?])
        | ok n =>
          have hturn : turn { path := q, phase := .delivering source .begun } (.store s) w₁
              = ({ path := q, phase := .removing },
                .store { s' with tally := s'.tally.took n }, w₂) := by
            simp only [turn, Destination.turn, ObjectStore.turn, hput, afterTurn]
          refine ⟨source, w₁, n, s', w₂, rfl, hput, ?_⟩
          rw [turns_of_turn _ hturn, turns, turn]
          cases hremove : w₂.attempt (Disk.remove q) with
          | mk removed w₃ =>
            cases removed with
            | error e => simp only [turns_ended]; rfl
            | ok => simp only [turns_ended]

end Upload

theorem ObjectStore.putContent_ok {s s' : ObjectStore} {key : ObjectKey} {q : Path} {id n : Nat}
    {w w' : World} (files : s.shelf = .files) (hkey : s.keyFor q = .ok key)
    (h : s.putContent q (.file id) w = (.ok n, s', w')) :
    ∃ faults, Shelf.putFile key (w.disk.content id)
      { w with disk := { w.disk with faults } } = (.ok (), w') := by
  rw [putContent, hkey] at h
  dsimp only at h
  split at h
  · exact absurd h (by simp)
  next bytes w₁ hread =>
  obtain ⟨faults, disk, hop, rfl⟩ := World.attempt_ok hread
  simp only [Disk.read, Except.ok.injEq, Prod.mk.injEq] at hop
  obtain ⟨rfl, rfl⟩ := hop
  rw [files, Shelf.put] at h
  refine ⟨faults, ?_⟩
  cases hput : Shelf.putFile key (w.disk.content id) { w with disk := { w.disk with faults } } with
  | mk result w₂ =>
    rw [Disk.content_faults, hput] at h
    cases result with
    | error e => exact absurd h (by simp)
    | ok =>
      simp only [Prod.mk.injEq] at h
      rw [h.2.2]

namespace Shelf

variable {key : ObjectKey} {bytes : Bytes} {d d' : Disk} {dir dest : Location} {name last : Name}

theorem Landed.withFaults (h : Landed key bytes d d' dest last) (faults : List (Option OsError)) :
    Landed key bytes d { d' with faults } dest last :=
  ⟨h.sound.withFaults faults, h.keeps.trans (Disk.grows_faults d' faults).keeps,
    (Disk.goal_faults d' faults _).trans h.goal, h.size, h.object, h.back, h.files⟩

theorem Landed.linkless (h : Landed key bytes d d' dest last) : d'.Linkless (dest ++ [last]) := by
  obtain ⟨id, hnode, -⟩ := Disk.node_of_fileAt? h.object
  intro target hlink
  rw [hnode] at hlink
  exact absurd hlink (by simp)

theorem Landed.objectAt? (h : Landed key bytes d d' dest last) : objectAt? d' key = some bytes :=
  (objectAt?_of_goal h.goal h.size h.linkless).trans h.object

/-- When a regular file is removed, an object that has been put is still there, unless it was in its
place. -/
theorem Landed.take (h : Landed key bytes d d' dest last) (sound : d.Sound) {id : Nat}
    (hnode : d.node? (dir ++ [name]) = some (.file id)) :
    Shelf.objectAt? (d'.take (dir ++ [name])) key = some bytes ↔
      d.goal (pathOf key) ≠ .ok (.entry dir name, false) := by
  obtain ⟨id', hfile⟩ := h.files hnode
  have carries := (keeps_take hfile (by simp)).carries
  have hgoal := carries.goal h.goal
  have hlink : (d'.take (dir ++ [name])).Linkless (dest ++ [last]) := by
    intro target hlink
    rw [Disk.node?_take _ _ _ (by simp)] at hlink
    split at hlink
    · exact absurd hlink (by simp)
    · exact h.linkless target hlink
  rw [objectAt?_of_goal hgoal h.size hlink, Disk.fileAt?, Disk.node?_take _ _ _ (by simp)]
  by_cases heq : dest ++ [last] = dir ++ [name]
  · obtain ⟨rfl, hlast⟩ := List.append_inj' heq rfl
    obtain rfl : last = name := by simpa using hlast
    have hbefore : d.goal (pathOf key) = .ok (.entry dest last, false) := by
      refine h.back.resolve_right fun hfree => ?_
      rw [sound.parent hnode] at hfree
      exact absurd hfree (by simp)
    simp [hbefore]
  · rw [if_neg heq]
    have hobject := h.object
    rw [Disk.fileAt?] at hobject
    refine ⟨fun _ hbefore => heq ?_, fun _ => hobject⟩
    have hafter := h.goal.symm.trans (h.keeps.carries.goal hbefore)
    simp only [Except.ok.injEq, Prod.mk.injEq, Goal.entry.injEq, and_true] at hafter
    rw [hafter.1, hafter.2]

end Shelf

/-- An upload of a regular file into a store of files that ends with a success has left the object
in the store, unless the object had its path where the file was, and the file was removed. -/
theorem ObjectStore.run_survives_iff {s : ObjectStore} {key : ObjectKey} {q : Path} {w : World}
    {dir : Location} {name : Name} {bytes : Bytes} (files : s.shelf = .files)
    (hkey : s.keyFor q = .ok key) (proper : key.Proper) (sound : w.disk.Sound)
    (hq : ∀ {d : Disk}, w.disk.Carries d → d.Only q dir name)
    (linkless : ∀ {dest : Location} {name : Name},
      w.disk.goal (Shelf.pathOf key) = .ok (.entry dest name, false) →
        w.disk.Linkless (dest ++ [name]))
    (hfile : w.disk.fileAt? (dir ++ [name]) = some bytes)
    (hok : ((Upload.ofPath q).run (.store s) w).1.result? = some (.ok ())) :
    Shelf.objectAt? ((Upload.ofPath q).run (.store s) w).2.2.disk key = some bytes ↔
      ¬ (w.disk.goal (Shelf.pathOf key) = .ok (.entry dir name, false) ∧
        ((Upload.ofPath q).run (.store s) w).2.2.disk.fileAt? (dir ++ [name]) = none) := by
  obtain ⟨source, w₁, n, s', w₂, hopen, hput, hdisk⟩ := Upload.run_store_ok hok
  rw [hdisk]
  obtain ⟨id, hnode, hbytes⟩ := Disk.node_of_fileAt? hfile
  have only := hq ⟨rfl, fun hwalk => hwalk⟩
  obtain ⟨faults, d₁, hop, rfl⟩ := World.attempt_ok hopen
  obtain ⟨rfl, rfl⟩ := (only.withFaults faults).openRead_file hnode hop
  obtain ⟨faults', hput⟩ := putContent_ok files hkey hput
  rw [Disk.content_faults, hbytes] at hput
  have hlinkless : ∀ {dest : Location} {name : Name},
      Disk.goal { w.disk with faults := faults' } (Shelf.pathOf key)
        = .ok (.entry dest name, false) →
      Disk.Linkless { w.disk with faults := faults' } (dest ++ [name]) :=
    fun hgoal => linkless ((Disk.goal_faults w.disk faults' _).symm.trans hgoal)
  obtain ⟨dest, last, landed⟩ :=
    Shelf.putFile_landed proper (sound.withFaults faults') hlinkless hput
  have carries := (Disk.grows_faults w.disk faults').keeps.carries.trans landed.keeps.carries
  cases hremove : w₂.attempt (Disk.remove q) with
  | mk removed w₃ =>
    cases removed with
    | error e =>
      obtain ⟨faults'', rfl⟩ := World.attempt_error hremove
      obtain ⟨id', hleft⟩ := landed.files hnode
      have hfileAt : w₂.disk.fileAt? (dir ++ [name]) ≠ none := by
        rw [Disk.fileAt?_of_node hleft]
        simp
      exact ⟨fun _ hboth => hfileAt hboth.2, fun _ => (landed.withFaults faults'').objectAt?⟩
    | ok =>
      obtain ⟨faults'', d₃, hop, rfl⟩ := World.attempt_ok hremove
      have carries'' := carries.trans (Disk.grows_faults w₂.disk faults'').keeps.carries
      obtain ⟨-, rfl⟩ := (hq carries'').remove hop
      have hgone : Disk.fileAt? (Disk.take { w₂.disk with faults := faults'' } (dir ++ [name]))
          (dir ++ [name]) = none := by
        rw [Disk.fileAt?, Disk.node?_take _ _ _ (by simp), if_pos rfl]
      have hsame := Disk.goal_faults w.disk faults' (Shelf.pathOf key)
      exact ((landed.withFaults faults'').take (sound.withFaults faults') hnode).trans
        ⟨fun hne hboth => hne (hsame.trans hboth.1),
          fun hnot hgoal => hnot ⟨hsame.symm.trans hgoal, hgone⟩⟩

end Outbox
