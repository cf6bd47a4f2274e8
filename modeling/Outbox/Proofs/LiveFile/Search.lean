import Outbox.Proofs.LiveFile.Seats
import Outbox.Proofs.Sink.FailedRollover

/-!
# The search for a free name

A rollover tries the stamped name and then the same name with the numbers from 1 on, and takes the
first that is free. The names that are tried are all different and, for a stamp without a slash, all
of one directory, so the taken ones among them are as many entries of it: the search ends after at
most one try more than there are entries. What has been chosen was free, so the rename drops no file
and the live file that is opened after it is new and empty (`rollOver_overwrites_nothing`).

A name is free if its path leads to nothing. A link that leads nowhere may have it, and is then what
the rename drops.
-/

set_option autoImplicit false

namespace Outbox

namespace Disk

variable {d d' : Disk} {p q : Path} {dir : Location} {name other : Name}

theorem goal_of_beside (valid : q.Valid) (plain : Plain name) (plain' : Plain other)
    (beside : p.Beside name q other) (h : d.goal p = .ok (.entry dir name, false)) :
    d.goal q = .ok (.entry dir other, false) := by
  obtain ⟨front, dots, dots', hp, hq, hdots, hdots'⟩ := beside.steps
  obtain ⟨used, dir', heq, hwalk, hused⟩ := walk_of_goal hp plain.last h
  obtain ⟨rfl, -⟩ := Goal.entry.inj heq
  have horigin : d.origin q = d.origin p := by rw [origin, origin, beside.absolute]
  have hwalk' : Walk d used (d.origin q) (front ++ dots') dir :=
    horigin ▸ hwalk.dots hdots hdots'
  rw [goal_of_walk valid hq plain'.last hwalk' hused,
    decide_eq_false (beside.endsIn.getLast?_ne plain')]

end Disk

namespace LiveFile

/-- The names that are tried for a rolled file: the base, then the base with the numbers from 1
on. -/
def triedName (base : Name) : Nat → Name
  | 0 => base
  | n + 1 => base ++ '.' :: Digits.decimal (n + 1)

def tried (path : Path) (base : Name) (n : Nat) : Path :=
  path.withFileName (triedName base n)

/-- Where a search for a free name stands: the path to be looked at, and the number that is put
into the next one, of 32 bits. -/
structure Search where
  target : Path
  counter : UInt32

def Search.start (path : Path) (base : Name) : Search :=
  ⟨path.withFileName base, 1⟩

/-- A search that goes on from a path that is taken. The counter wraps around at its end. -/
def Search.next (path : Path) (base : Name) (s : Search) : Search :=
  ⟨path.withFileName (base ++ '.' :: Digits.decimal s.counter.toNat), s.counter + 1⟩

def Search.after (path : Path) (base : Name) : Nat → Search
  | 0 => .start path base
  | n + 1 => (Search.after path base n).next path base

/-- A counter that has not come to its end counts the paths. -/
theorem Search.after_eq {path : Path} {base : Name} {n : Nat} (h : n < UInt32.size - 1) :
    (Search.after path base n).target = tried path base n ∧
      (Search.after path base n).counter.toNat = n + 1 := by
  induction n with
  | zero => exact ⟨rfl, rfl⟩
  | succ n ih =>
    obtain ⟨-, hcounter⟩ := ih (by omega)
    refine ⟨?_, ?_⟩
    · rw [Search.after, Search.next, hcounter]
      rfl
    · rw [Search.after, Search.next, UInt32.toNat_add, hcounter]
      exact Nat.mod_eq_of_lt (Nat.add_lt_of_lt_sub h)

/-! ### The first free name -/

section First

variable {d : Disk} {path : Path} {base : Name}

/-- What is taken from a number on comes after names that are not free. -/
theorem numberedName_first (d : Disk) (path : Path) (base : Name) (tries n : Nat) :
    ∃ k, numberedName d path base tries (n + 1) = tried path base (k + 1) ∧ n ≤ k ∧
      ∀ m, n ≤ m → m < k → d.exists? (tried path base (m + 1)) = true := by
  induction tries generalizing n with
  | zero => exact ⟨n, rfl, le_rfl, fun m hle hlt => absurd hlt (by omega)⟩
  | succ tries ih =>
    rw [numberedName]
    split
    · next taken =>
      obtain ⟨k, heq, hle, hfirst⟩ := ih (n + 1)
      refine ⟨k, heq, by omega, fun m hn hk => ?_⟩
      rcases Nat.eq_or_lt_of_le hn with rfl | hlt
      · exact taken
      · exact hfirst m (by omega) hk
    · exact ⟨n, rfl, le_rfl, fun m hle hlt => absurd hlt (by omega)⟩

theorem freeName_first (d : Disk) (path : Path) (hbase : base ≠ []) :
    ∃ n, freeName d path base = tried path base n ∧ d.exists? (tried path base n) = false ∧
      ∀ m < n, d.exists? (tried path base m) = true := by
  have hfree := exists_freeName d path hbase
  rw [freeName] at hfree ⊢
  split at hfree
  · next taken =>
    rw [if_pos taken]
    obtain ⟨k, heq, -, hfirst⟩ := numberedName_first d path base d.nodes.length 0
    rw [Nat.zero_add] at heq
    refine ⟨k + 1, heq, heq ▸ hfree, fun m hm => ?_⟩
    cases m with
    | zero => exact taken
    | succ m => exact hfirst m (by omega) (by omega)
  · next free =>
    rw [if_neg free]
    exact ⟨0, rfl, hfree, fun m hm => absurd hm (by omega)⟩

theorem rolledName_tried {file : LiveFile} {pattern : Text} {w : World} {target : Path}
    (h : file.rolledName pattern w = .ok target) :
    ∃ stamp n, w.wall.format? pattern = some stamp ∧
      target = tried file.path (file.counters.name ++ '.' :: stamp) n ∧
      ∀ m < n, w.disk.exists? (tried file.path (file.counters.name ++ '.' :: stamp) m) = true := by
  rw [rolledName] at h
  split at h
  · exact absurd h (by simp)
  · split at h
    · exact absurd h (by simp)
    · next stamp hstamp =>
      obtain ⟨n, hname, -, least⟩ :=
        @freeName_first (file.counters.name ++ '.' :: stamp) w.disk file.path (by simp)
      rw [Except.ok.injEq] at h
      exact ⟨stamp, n, hstamp, by rw [← h, hname], least⟩

theorem triedName_injective {n m : Nat} (h : triedName base n = triedName base m) : n = m := by
  cases n <;> cases m <;> simp only [triedName] at h
  · rfl
  · exact absurd (congrArg List.length h) (by simp)
  · exact absurd (congrArg List.length h) (by simp)
  · rw [List.append_cancel_left_eq, List.cons.injEq] at h
    exact Digits.decimal_injective h.2

end First

/-! ### Names beside the live file -/

section Beside

variable {d : Disk} {path : Path} {dir : Location} {name stamp : Name}

theorem plain_stamped (plain : Plain name) (no_slash : '/' ∉ stamp) :
    Plain (name ++ '.' :: stamp) := by
  have hname : 0 < name.length := List.length_pos_iff_ne_nil.mpr plain.ne_nil
  refine ⟨by simp, ?_, fun h => ?_, fun h => ?_⟩
  · rw [List.mem_append, List.mem_cons, not_or, not_or]
    exact ⟨plain.no_slash, by decide, no_slash⟩
  · have hlength := congrArg List.length h
    simp only [List.length_append, List.length_cons, List.length_nil] at hlength
    omega
  · -- two points: the live file's name would be one of them
    have hlength := congrArg List.length h
    simp only [List.length_append, List.length_cons, List.length_nil] at hlength
    have hsplit : name ++ '.' :: stamp = ['.'] ++ ['.'] := h
    obtain ⟨hname, -⟩ := List.append_inj hsplit (by rw [List.length_singleton]; omega)
    exact plain.ne_dot hname

theorem plain_triedName (plain : Plain name) (no_slash : '/' ∉ stamp) (n : Nat) :
    Plain (triedName (name ++ '.' :: stamp) n) := by
  have hbase := plain_stamped plain no_slash
  cases n with
  | zero => exact hbase
  | succ n => exact plain_stamped hbase Pattern.no_slash_of_digits

theorem triedName_ne (n : Nat) : name ≠ triedName (name ++ '.' :: stamp) n := by
  cases n <;> simp [triedName]

theorem beside_tried (only : d.Only path dir name) (no_slash : '/' ∉ stamp) (n : Nat) :
    path.Beside name (tried path (name ++ '.' :: stamp) n)
      (triedName (name ++ '.' :: stamp) n) :=
  Path.beside_withFileName only.endsIn only.plain (plain_triedName only.plain no_slash n)

theorem only_tried (valid : path.Valid) (only : d.Only path dir name) (no_slash : '/' ∉ stamp)
    (n : Nat) : d.Only (tried path (name ++ '.' :: stamp) n) dir
      (triedName (name ++ '.' :: stamp) n) :=
  only.beside valid (beside_tried only no_slash n) (plain_triedName only.plain no_slash n)

/-- As many names as have been passed over are entries of the directory. -/
theorem le_children_of_tried (valid : path.Valid) (only : d.Only path dir name)
    (no_slash : '/' ∉ stamp) {n : Nat}
    (taken : ∀ m < n, d.exists? (tried path (name ++ '.' :: stamp) m) = true) :
    n ≤ (d.children dir).length := by
  have hsubset : (List.range n).map (triedName (name ++ '.' :: stamp))
      ⊆ (d.children dir).map Prod.fst := by
    intro entry hentry
    obtain ⟨m, hm, rfl⟩ := List.mem_map.mp hentry
    have hthere := (only_tried valid only no_slash m).exists_node
      (taken m (List.mem_range.mp hm))
    obtain ⟨node, hnode⟩ := Option.ne_none_iff_exists'.mp hthere
    rw [d.node?_entry] at hnode
    exact List.mem_map.mpr ⟨_, Disk.mem_children_of_mem (Disk.mem_of_lookup hnode), rfl⟩
  have hnodup : ((List.range n).map (triedName (name ++ '.' :: stamp))).Nodup :=
    List.Nodup.map (fun _ _ h => triedName_injective h) List.nodup_range
  simpa using (List.subperm_of_subset hnodup hsubset).length_le

end Beside

/-- A search that ends at the `n`th path after the first: the first free one, before there are more
looks than entries, and before the counter wraps around. -/
structure SearchEnds (d : Disk) (path : Path) (dir : Location) (base : Name) (n : Nat) : Prop where
  free : d.exists? (tried path base n) = false
  least : ∀ m < n, d.exists? (tried path base m) = true
  bounded : n ≤ (d.children dir).length
  counted : (d.children dir).length < UInt32.size - 1 → ∀ m ≤ n,
    (Search.after path base m).target = tried path base m ∧
      (Search.after path base m).counter.toNat = m + 1

/-! ### What a rollover does to the tree -/

section Roll

variable {file file' : LiveFile} {pattern stamp : Text} {w w' : World} {target : Path}
  {dir : Location} {name other : Name} {id : Nat}

/-- The live file's content has got a name that led to nothing, and a new live file is in the old
place. -/
structure RolledTo (path target : Path) (dir : Location) (name other : Name) (id : Nat)
    (d d' : Disk) : Prop where
  goal : d.goal target = .ok (.entry dir other, false)
  free : d.exists? target = false
  /-- What the rename has dropped, if anything, is a link. -/
  vacant : d.node? (dir ++ [other]) = none ∨ ∃ link, d.node? (dir ++ [other]) = some (.link link)
  found : d'.find target = .ok (dir ++ [other], .file id)
  content : d'.content id = d.content id
  live : d'.find path = .ok (dir ++ [name], .file d.contents.length)
  new : ∀ loc, d.node? loc ≠ some (.file d.contents.length)
  empty : d'.fileAt? (dir ++ [name]) = some []
  others : ∀ loc, loc ≠ dir ++ [name] → loc ≠ dir ++ [other] →
    d'.node? loc = d.node? loc ∧ d'.fileAt? loc = d.fileAt? loc

theorem rollOver_ok (h : file.rollOver pattern w = (.ok target, file', w')) :
    ∃ w₁ handle, file.putAway pattern w = .moved target w₁ ∧
      w₁.attempt (Disk.openAppend file.path) = (.ok handle, w') ∧
      file' = ({ file with handle := some handle } : LiveFile).rolled w' := by
  rw [rollOver_eq] at h
  cases hput : file.putAway pattern w with
  | refused e => simp [hput] at h
  | kept e w₁ =>
    rw [hput] at h
    rcases hreopen : file.reopen w₁ with ⟨e' | _, file₁, w₂⟩ <;> simp [hreopen] at h
  | moved target' w₁ =>
    rw [hput] at h
    rcases hopen : w₁.attempt (Disk.openAppend file.path) with ⟨e | handle, w₂⟩
    · simp [reopen, hopen] at h
    · simp only [reopen, hopen, Prod.mk.injEq, Except.ok.injEq] at h
      obtain ⟨rfl, rfl, rfl⟩ := h
      exact ⟨w₁, handle, rfl, hopen, rfl⟩

/-- The first half of a rollover: the content has got its new name, and nothing is in the old
place. -/
structure Vacated (target : Path) (dir : Location) (name other : Name) (id : Nat) (d d' : Disk) :
    Prop where
  goal : d.goal target = .ok (.entry dir other, false)
  size : Utf8.size other ≤ maxNameSize
  free : d.exists? target = false
  vacant : d.node? (dir ++ [other]) = none ∨ ∃ link, d.node? (dir ++ [other]) = some (.link link)
  narrows : d.Narrows d'
  node : ∀ loc, d'.node? loc = if loc = dir ++ [other] then some (.file id)
    else if loc = dir ++ [name] then none else d.node? loc
  contents : d'.contents = d.contents

theorem vacated_of_putAway (names : w.disk.Names file.path dir name id)
    (beside : file.path.Beside name target other) (plain : Plain other) (ne : name ≠ other)
    (h : file.putAway pattern w = .moved target w') :
    Vacated target dir name other id w.disk w'.disk := by
  obtain ⟨hrolled, faults, hrename⟩ := putAway_ok h
  have free := rolledName_free hrolled
  obtain ⟨valid, only⟩ := Disk.only_of_goal names.goal
  have hplaces : dir ++ [name] ≠ dir ++ [other] := by simpa using ne
  obtain ⟨-, hgoal, hentry, -, hmoved⟩ := (only.withFaults faults).rename
    ((only.beside valid beside plain).withFaults faults) (by simp [names.node]) ne hrename
  rw [Disk.goal_faults] at hgoal
  have hbare := (names.withFaults faults).bare
  refine ⟨hgoal, (Disk.nodeIn?_ok hentry).2, free, Disk.free_of_goal hgoal hentry free, ?_,
    fun loc => ?_, ?_⟩ <;> rw [hmoved]
  · exact (Disk.narrows_faults w.disk faults).trans
      (hbare.narrows_move names.node hplaces (by simp))
  · rw [Disk.node?_move hbare hplaces (by simp) (by simp), Disk.node?_faults, names.node,
      Disk.node?_faults]
  · rfl

theorem rolledTo_of_rollOver (names : w.disk.Names file.path dir name id)
    (numbered : ∀ {loc id}, w.disk.node? loc = some (.file id) → id < w.disk.contents.length)
    (beside : file.path.Beside name target other) (plain : Plain other) (ne : name ≠ other)
    (h : file.rollOver pattern w = (.ok target, file', w')) :
    RolledTo file.path target dir name other id w.disk w'.disk := by
  obtain ⟨w₁, handle, hput, hopen, -⟩ := rollOver_ok h
  have vacated := vacated_of_putAway names beside plain ne hput
  have only := (Disk.only_of_goal names.goal).2
  have hplaces : dir ++ [name] ≠ dir ++ [other] := by simpa using ne
  have hvacated : w₁.disk.node? (dir ++ [name]) = none := by
    rw [vacated.node, if_neg hplaces, if_pos rfl]
  -- the new live file
  obtain ⟨faults', disk, hop, rfl⟩ := World.attempt_ok hopen
  have only₁ := (only.of_narrows vacated.narrows).withFaults faults'
  have hlink : ({ w₁.disk with faults := faults' } : Disk).Linkless (dir ++ [name]) := by
    intro target
    simp [hvacated]
  obtain ⟨node, hnode, -⟩ | ⟨-, -, -, hnew⟩ := only₁.openForWriting hlink hop
  · rw [Disk.node?_faults, hvacated] at hnode
    exact absurd hnode (by simp)
  have lookup : ∀ loc, disk.node? loc = if loc = dir ++ [name] then
        some (.file w.disk.contents.length)
      else if loc = dir ++ [other] then some (.file id) else w.disk.node? loc := by
    intro loc
    rw [hnew, Disk.node?_putNewFile _ _ _ (by simp), Disk.node?_faults, vacated.node,
      vacated.contents]
    split
    · rfl
    · split <;> rfl
  have content : ∀ id, disk.content id = w.disk.content id := by
    intro id
    rw [hnew, Disk.content_putNewFile, Disk.content_faults, Disk.content, vacated.contents,
      Disk.content]
  obtain ⟨⟨dir', name', hgoal'⟩, -⟩ := Disk.again_of_openForWriting hop
  obtain ⟨heq, -⟩ := (hnew ▸ only₁.of_narrows (Disk.narrows_putNewFile _ _ (by simp)) :
    disk.Only file.path dir name).goal hgoal'
  obtain ⟨rfl, rfl⟩ := Goal.entry.inj heq
  have hgoalTarget :=
    Disk.goal_of_beside (Disk.goal_ok vacated.goal).1 only.plain plain beside hgoal'
  refine ⟨vacated.goal, vacated.free, vacated.vacant, ?_, content id, ?_, ?_, ?_, ?_⟩
  · refine Disk.find_of_goal hgoalTarget ?_ (by simp)
    rw [Disk.nodeIn?_of_size vacated.size, lookup, if_neg hplaces.symm, if_pos rfl]
  · refine Disk.find_of_goal hgoal' ?_ (by simp)
    rw [Disk.nodeIn?_of_size (Disk.nodeIn?_ok names.entry).2, lookup, if_pos rfl]
  · intro loc hnode
    exact absurd (numbered hnode) (Nat.lt_irrefl _)
  · have hnode := lookup (dir' ++ [name'])
    rw [if_pos rfl] at hnode
    rw [Disk.fileAt?_of_node hnode, content]
    simp [Disk.content]
  · intro loc hlive hother
    have hnode : disk.node? loc = w.disk.node? loc := by
      rw [lookup, if_neg hlive, if_neg hother]
    exact ⟨hnode, Disk.fileAt?_congr hnode fun _ => content _⟩

end Roll

end LiveFile

open LiveFile

/-- Whatever the disk holds and whatever the pattern is, as long as it puts no slash into the name:
the search for a name ends at the first free one, and a rollover that gives a name has overwritten
no file. -/
theorem rollOver_overwrites_nothing {file : LiveFile} {pattern stamp : Text} {w : World}
    {dir : Location} {name : Name} {id : Nat} (names : w.disk.Names file.path dir name id)
    (numbered : ∀ {loc id}, w.disk.node? loc = some (.file id) → id < w.disk.contents.length)
    (called : file.counters.name = name) (readable : w.wall.isReadable = true)
    (stamped : w.wall.format? pattern = some stamp) (no_slash : '/' ∉ stamp) :
    ∃ n, file.rolledName pattern w = .ok (tried file.path (name ++ '.' :: stamp) n) ∧
      SearchEnds w.disk file.path dir (name ++ '.' :: stamp) n ∧
      ∀ {target file' w'}, file.rollOver pattern w = (.ok target, file', w') →
        target = tried file.path (name ++ '.' :: stamp) n ∧
          RolledTo file.path target dir name (triedName (name ++ '.' :: stamp) n) id w.disk
            w'.disk := by
  obtain ⟨valid, only⟩ := Disk.only_of_goal names.goal
  obtain ⟨n, hname, free, least⟩ :=
    @freeName_first (name ++ '.' :: stamp) w.disk file.path (by simp)
  have bounded := le_children_of_tried valid only no_slash least
  have hrolled : file.rolledName pattern w
      = .ok (tried file.path (name ++ '.' :: stamp) n) := by
    rw [rolledName, readable, stamped, called, ← hname]
    rfl
  refine ⟨n, hrolled, ⟨free, least, bounded, fun few m hm => Search.after_eq (by omega)⟩, ?_⟩
  intro target file' w' h
  obtain ⟨w₁, -, hput, -, -⟩ := rollOver_ok h
  obtain rfl : tried file.path (name ++ '.' :: stamp) n = target :=
    Except.ok.inj (hrolled.symm.trans (putAway_ok hput).1)
  exact ⟨rfl, rolledTo_of_rollOver names numbered (beside_tried only no_slash n)
    (plain_triedName only.plain no_slash n) (triedName_ne n) h⟩

/-- Whether an operation has succeeded, with what passes a check. -/
def LiveFile.gives {α β : Type} (result : Except IoError α × β) (check : α → β → Bool) : Bool :=
  result.1.toOption.any fun a => check a result.2

theorem LiveFile.ok_of_gives {α β : Type} {result : Except IoError α × β} {check : α → β → Bool}
    (h : gives result check = true) : ∃ a b, result = (.ok a, b) ∧ check a b = true := by
  obtain ⟨e | a, b⟩ := result
  · exact absurd h (by simp [gives, Except.toOption])
  · exact ⟨a, b, rfl, by simpa [gives, Except.toOption] using h⟩

/-- A world in which two files have the names that are tried first. -/
def World.stamped : World :=
  { World.fresh ['w'] with
    disk :=
      ((((Disk.fresh ['w']).putNewFile [['w'], "live".toList]).1.setContent 0 [97]).putNewFile
        [['w'], "live.1970-01-01T00:00:00".toList]).1.putNewFile
          [['w'], "live.1970-01-01T00:00:00.1".toList] |>.1 }

theorem names_stamped :
    World.stamped.disk.Names LiveFile.inStart.path [['w']] "live".toList 0 where
  goal := by decide +kernel
  entry := by decide +kernel
  bare := by
    rw [Disk.Bare]
    decide +kernel

theorem sound_stamped : World.stamped.disk.Sound := by
  have start : Plain ['w'] := ⟨by decide, by decide, by decide, by decide⟩
  have live : ((Disk.fresh ['w']).putNewFile ([['w']] ++ ["live".toList])).1.Sound :=
    (Disk.fresh_sound start (by decide)).putNewFile (by decide)
      ⟨by decide, by decide, by decide, by decide⟩ (by decide)
  have first : ((((Disk.fresh ['w']).putNewFile ([['w']] ++ ["live".toList])).1.setContent 0
      [97]).putNewFile ([['w']] ++ ["live.1970-01-01T00:00:00".toList])).1.Sound :=
    (live.setContent 0 [97]).putNewFile (by decide) ⟨by decide, by decide, by decide, by decide⟩
      (by decide)
  have second : (((((Disk.fresh ['w']).putNewFile ([['w']] ++ ["live".toList])).1.setContent 0
      [97]).putNewFile ([['w']] ++ ["live.1970-01-01T00:00:00".toList])).1.putNewFile
        ([['w']] ++ ["live.1970-01-01T00:00:00.1".toList])).1.Sound :=
    first.putNewFile (by decide) ⟨by decide, by decide, by decide, by decide⟩ (by decide)
  exact second

/-- The third name is taken, and the others are passed over. -/
theorem rollOver_past_stamped :
    ∃ n file w, LiveFile.inStart.rollOver LiveFile.stampPattern .stamped
        = (.ok (.ofString "live.1970-01-01T00:00:00.2"), file, w) ∧
      SearchEnds World.stamped.disk LiveFile.inStart.path [['w']]
        "live.1970-01-01T00:00:00".toList n ∧
      RolledTo LiveFile.inStart.path (.ofString "live.1970-01-01T00:00:00.2") [['w']]
        "live".toList (triedName "live.1970-01-01T00:00:00".toList n) 0
        World.stamped.disk w.disk := by
  obtain ⟨n, -, ends, after⟩ := rollOver_overwrites_nothing names_stamped sound_stamped.numbered rfl
    (by decide +kernel)
    (show World.stamped.wall.format? LiveFile.stampPattern = some "1970-01-01T00:00:00".toList by
      decide +kernel)
    (by decide +kernel)
  have hgives : LiveFile.gives (LiveFile.inStart.rollOver LiveFile.stampPattern .stamped)
      (fun target _ => target = .ofString "live.1970-01-01T00:00:00.2") = true := by
    decide +kernel
  obtain ⟨target, ⟨file, w⟩, hroll, htarget⟩ := LiveFile.ok_of_gives hgives
  obtain rfl := of_decide_eq_true htarget
  exact ⟨n, file, w, hroll, ends, (after hroll).2⟩

end Outbox
