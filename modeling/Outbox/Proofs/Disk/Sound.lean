import Mathlib.Data.List.Infix
import Outbox.Proofs.Disk.Entries

/-!
# Sound disks

The disks that can be met: what there is lies in directories, goes by names that can be names, and
each content has one name at most, for there is no operation that gives a file a second one. The
changes that the operations are made of keep a disk sound.
-/

set_option autoImplicit false

namespace Outbox.Disk

/-- A disk that the operations can lead to. -/
structure Sound (d : Disk) : Prop where
  once : (d.nodes.map Prod.fst).Nodup
  parent : ∀ {loc : Location} {name : Name} {node : Node},
    d.node? (loc ++ [name]) = some node → d.node? loc = some .dir
  plain : ∀ {loc : Location} {name : Name} {node : Node},
    d.node? (loc ++ [name]) = some node → Plain name
  numbered : ∀ {loc : Location} {id : Nat},
    d.node? loc = some (.file id) → id < d.contents.length
  single : ∀ {loc loc' : Location} {id : Nat},
    d.node? loc = some (.file id) → d.node? loc' = some (.file id) → loc = loc'
  start : d.node? d.start = some .dir

/-- What lies above an entry is a directory. -/
theorem Sound.above {d : Disk} (sound : d.Sound) {loc rest : Location} {node : Node}
    (hrest : rest ≠ []) (h : d.node? (loc ++ rest) = some node) : d.node? loc = some .dir := by
  induction rest generalizing loc with
  | nil => exact absurd rfl hrest
  | cons name rest ih =>
    cases rest with
    | nil => exact sound.parent h
    | cons next rest =>
      have hnext : d.node? (loc ++ [name]) = some .dir := ih (by simp) (by simpa using h)
      exact sound.parent hnext

/-- Nothing lies below what is no directory. -/
theorem Sound.bare {d : Disk} (sound : d.Sound) {loc : Location} {node : Node}
    (h : d.node? loc = some node) (hnode : node ≠ .dir) : d.Bare loc := by
  rintro ⟨key, value⟩ hentry ⟨rest, hrest⟩
  by_cases hnil : rest = []
  · simpa [hnil] using hrest.symm
  · have hkey : key ≠ [] := by
      rintro rfl
      exact hnil (List.append_eq_nil_iff.mp hrest).2
    obtain ⟨value', hvalue⟩ := exists_lookup_of_mem hentry
    have hloc : loc ++ rest = key := hrest
    rw [← d.node?_of_ne_nil hkey, ← hloc] at hvalue
    rw [sound.above hnil hvalue] at h
    exact absurd (Option.some.inj h).symm hnode

theorem Sound.ne_nil {d : Disk} {loc : Location} {node : Node}
    (h : d.node? loc = some node) (hnode : node ≠ .dir) : loc ≠ [] := by
  rintro rfl
  rw [node?_nil] at h
  exact hnode (Option.some.inj h).symm

theorem mem_of_node? {d : Disk} {loc : Location} {node : Node} (h : d.node? loc = some node)
    (hnode : node ≠ .dir) : (loc, node) ∈ d.nodes := by
  rw [d.node?_of_ne_nil (Sound.ne_nil h hnode)] at h
  exact mem_of_lookup h

/-- Whether a disk has a file with some bytes in it. -/
def holdsPart (d : Disk) (part : Bytes) : Bool :=
  d.nodes.any fun entry =>
    match entry.2 with
    | .file id => decide (part <:+: d.content id)
    | _ => false

theorem not_part_of_file {part bytes : Bytes} {d : Disk} {loc : Location}
    (h : d.holdsPart part = false) (hfile : d.fileAt? loc = some bytes) : ¬ part <:+: bytes := by
  obtain ⟨id, hnode, rfl⟩ := node_of_fileAt? hfile
  have hentry := List.any_eq_false.mp h (loc, .file id) (mem_of_node? hnode (by simp))
  simpa using hentry

def hasLink (d : Disk) : Bool :=
  d.nodes.any fun entry =>
    match entry.2 with
    | .link _ => true
    | _ => false

theorem not_link {d : Disk} (h : d.hasLink = false) (loc : Location) (target : Path) :
    d.node? loc ≠ some (.link target) := by
  intro hnode
  exact absurd rfl (List.any_eq_false.mp h _ (mem_of_node? hnode (by simp)))

theorem nodup_filter_keys {α β : Type} {l : List (α × β)} (p : α × β → Bool)
    (h : (l.map Prod.fst).Nodup) : ((l.filter p).map Prod.fst).Nodup :=
  h.sublist (List.filter_sublist.map _)

theorem Sound.withFaults {d : Disk} (sound : d.Sound) (faults : List (Option OsError)) :
    ({ d with faults } : Disk).Sound :=
  ⟨sound.once, sound.parent, sound.plain, sound.numbered, sound.single, sound.start⟩

theorem Sound.withListing {d : Disk} (sound : d.Sound) (listing : ListingOrder) :
    ({ d with listing } : Disk).Sound :=
  ⟨sound.once, sound.parent, sound.plain, sound.numbered, sound.single, sound.start⟩

theorem Sound.setContent {d : Disk} (sound : d.Sound) (id : Nat) (bytes : Bytes) :
    (d.setContent id bytes).Sound where
  once := sound.once
  parent := sound.parent
  plain := sound.plain
  numbered := by
    intro loc id' h
    simpa [Disk.setContent] using sound.numbered h
  single := sound.single
  start := sound.start

theorem Sound.take {d : Disk} (sound : d.Sound) {place : Location} {node : Node}
    (h : d.node? place = some node) (hnode : node ≠ .dir) : (d.take place).Sound := by
  have hplace := Sound.ne_nil h hnode
  have keep : ∀ {loc : Location} {other : Node}, (d.take place).node? loc = some other →
      d.node? loc = some other := by
    intro loc other hloc
    rw [node?_take d place loc hplace] at hloc
    split at hloc
    · exact absurd hloc (by simp)
    · exact hloc
  have dirs : ∀ {loc : Location}, d.node? loc = some .dir →
      (d.take place).node? loc = some .dir := by
    intro loc hloc
    rw [node?_take d place loc hplace, if_neg, hloc]
    rintro rfl
    rw [h] at hloc
    exact hnode (Option.some.inj hloc)
  exact
    { once := nodup_filter_keys _ sound.once
      parent := fun hloc => dirs (sound.parent (keep hloc))
      plain := fun hloc => sound.plain (keep hloc)
      numbered := fun hloc => sound.numbered (keep hloc)
      single := fun hloc hloc' => sound.single (keep hloc) (keep hloc')
      start := dirs sound.start }

theorem nodup_put {d : Disk} (h : (d.nodes.map Prod.fst).Nodup) (place : Location) (node : Node) :
    ((d.put place node).nodes.map Prod.fst).Nodup := by
  change ((d.nodes.filter (fun entry => decide (entry.1 ≠ place)) ++ [(place, node)]).map
    Prod.fst).Nodup
  rw [List.map_append, List.nodup_append]
  refine ⟨nodup_filter_keys _ h, by simp, ?_⟩
  intro key hkey key' hkey'
  obtain ⟨entry, hentry, rfl⟩ := List.mem_map.mp hkey
  have hne := (List.mem_filter.mp hentry).2
  simp only [List.map_cons, List.map_nil, List.mem_singleton] at hkey'
  simpa [hkey'] using hne

section Put

variable {d : Disk} {dir : Location} {name : Name}

private theorem put_free (sound : d.Sound) (hdir : d.node? dir = some .dir) (hname : Plain name)
    (free : d.node? (dir ++ [name]) = none) (node : Node) :
    (∀ {loc : Location} {key : Name} {other : Node},
      (d.put (dir ++ [name]) node).node? (loc ++ [key]) = some other →
        (d.put (dir ++ [name]) node).node? loc = some .dir ∧ Plain key) ∧
      (d.put (dir ++ [name]) node).node? d.start = some .dir := by
  have dirs : ∀ {loc : Location}, d.node? loc = some .dir →
      (d.put (dir ++ [name]) node).node? loc = some .dir := by
    intro loc hloc
    rw [node?_put d _ loc node (by simp), if_neg, hloc]
    rintro rfl
    rw [free] at hloc
    exact absurd hloc (by simp)
  refine ⟨?_, dirs sound.start⟩
  intro loc key other h
  rw [node?_put d _ _ node (by simp)] at h
  split at h
  · next heq =>
    obtain ⟨rfl, hkey⟩ := List.append_inj' heq rfl
    rw [List.cons.injEq] at hkey
    exact ⟨dirs hdir, hkey.1 ▸ hname⟩
  · exact ⟨dirs (sound.parent h), sound.plain h⟩

theorem Sound.putUnfiled {node : Node} (sound : d.Sound) (hdir : d.node? dir = some .dir)
    (hname : Plain name) (free : d.node? (dir ++ [name]) = none)
    (unfiled : ∀ id, node ≠ .file id) : (d.put (dir ++ [name]) node).Sound := by
  obtain ⟨lies, start⟩ := put_free sound hdir hname free node
  have files : ∀ {loc : Location} {id : Nat},
      (d.put (dir ++ [name]) node).node? loc = some (.file id) → d.node? loc = some (.file id) := by
    intro loc id h
    rw [node?_put d _ loc node (by simp)] at h
    split at h
    · exact absurd (Option.some.inj h) (unfiled id)
    · exact h
  exact
    { once := nodup_put sound.once _ _
      parent := fun h => (lies h).1
      plain := fun h => (lies h).2
      numbered := fun h => sound.numbered (files h)
      single := fun h h' => sound.single (files h) (files h')
      start := start }

theorem Sound.putDir (sound : d.Sound) (hdir : d.node? dir = some .dir) (hname : Plain name)
    (free : d.node? (dir ++ [name]) = none) : (d.put (dir ++ [name]) .dir).Sound :=
  sound.putUnfiled hdir hname free (by simp)

theorem Sound.putNewFile (sound : d.Sound) (hdir : d.node? dir = some .dir) (hname : Plain name)
    (free : d.node? (dir ++ [name]) = none) : (d.putNewFile (dir ++ [name])).1.Sound := by
  obtain ⟨lies, start⟩ := put_free sound hdir hname free (.file d.contents.length)
  have files : ∀ {loc : Location} {id : Nat},
      (d.putNewFile (dir ++ [name])).1.node? loc = some (.file id) →
        (loc = dir ++ [name] ∧ id = d.contents.length) ∨ d.node? loc = some (.file id) := by
    intro loc id h
    rw [node?_putNewFile d _ loc (by simp)] at h
    split at h
    · next heq => exact .inl ⟨heq, by simpa using h.symm⟩
    · exact .inr h
  refine
    { once := nodup_put sound.once _ _
      parent := fun h => (lies h).1
      plain := fun h => (lies h).2
      numbered := ?_
      single := ?_
      start := start }
  · intro loc id h
    change id < (d.contents ++ [[]]).length
    rw [List.length_append, List.length_singleton]
    rcases files h with ⟨-, rfl⟩ | h
    · omega
    · have := sound.numbered h
      omega
  · intro loc loc' id h h'
    rcases files h with ⟨rfl, rfl⟩ | h <;> rcases files h' with ⟨rfl, hid⟩ | h'
    · rfl
    · exact absurd (sound.numbered h') (by omega)
    · exact absurd (sound.numbered h) (by omega)
    · exact sound.single h h'

end Put

/-! ### Moving an entry -/

section Move

variable {d : Disk} {old new dir : Location} {name : Name} {node : Node}

/-- Only one entry moves, for its location is met once. -/
theorem nodup_move (once : (d.nodes.map Prod.fst).Nodup) (bare : d.Bare old) (new : Location) :
    ((d.move old new).nodes.map Prod.fst).Nodup := by
  have htake : ((d.take new).nodes.map Prod.fst).Nodup := nodup_filter_keys _ once
  have hkeys := bare.eq_of_moved new
  have hmoved := nodup_filter_keys (fun entry => old.isPrefixOf entry.1) htake
  change ((((d.take new).nodes.filter fun entry => !old.isPrefixOf entry.1)
    ++ ((d.take new).nodes.filter fun entry => old.isPrefixOf entry.1).map
      fun entry => (new ++ entry.1.drop old.length, entry.2)).map Prod.fst).Nodup
  rw [List.map_append, List.map_map, List.nodup_append]
  generalize hlist : (d.take new).nodes.filter (fun entry => old.isPrefixOf entry.1) = moved
    at hkeys hmoved
  have holds : moved.map Prod.fst = List.replicate moved.length old :=
    List.map_eq_replicate_iff.mpr hkeys
  have hnews : moved.map (Prod.fst ∘ fun entry => (new ++ entry.1.drop old.length, entry.2))
      = List.replicate moved.length new := by
    refine List.map_eq_replicate_iff.mpr fun entry hentry => ?_
    simp [hkeys entry hentry]
  rw [hnews]
  refine ⟨nodup_filter_keys _ htake, ?_, fun key hkey key' hkey' => ?_⟩
  · rw [holds, List.nodup_replicate] at hmoved
    exact List.nodup_replicate.mpr hmoved
  · obtain ⟨entry, hentry, rfl⟩ := List.mem_map.mp hkey
    rw [List.eq_of_mem_replicate hkey']
    simpa using (List.mem_filter.mp (List.mem_filter.mp hentry).1).2

/-- What is where once an entry that is no directory has moved. -/
theorem Sound.node?_move (sound : d.Sound) (hold : d.node? old = some node) (hnode : node ≠ .dir)
    (ne : old ≠ new) (hnew : new ≠ []) (loc : Location) :
    (d.move old new).node? loc
      = if loc = new then some node else if loc = old then none else d.node? loc := by
  rw [Disk.node?_move (sound.bare hold hnode) ne (Sound.ne_nil hold hnode) hnew, hold]

theorem Sound.dir_move (sound : d.Sound) (hold : d.node? old = some node) (hnode : node ≠ .dir)
    (ne : old ≠ new) (hnew : new ≠ []) (free : d.node? new ≠ some .dir) {loc : Location}
    (hloc : d.node? loc = some .dir) : (d.move old new).node? loc = some .dir := by
  rw [sound.node?_move hold hnode ne hnew, if_neg, if_neg, hloc]
  · rintro rfl
    rw [hold] at hloc
    exact hnode (Option.some.inj hloc)
  · rintro rfl
    exact free hloc

theorem Sound.node_of_move (sound : d.Sound) (hold : d.node? old = some node)
    (hnode : node ≠ .dir) (ne : old ≠ new) (hnew : new ≠ []) {loc : Location} {other : Node}
    (h : (d.move old new).node? loc = some other) :
    (loc = new ∧ d.node? old = some other) ∨ (loc ≠ old ∧ d.node? loc = some other) := by
  rw [sound.node?_move hold hnode ne hnew] at h
  split at h
  · next heq => exact .inl ⟨heq, hold.trans h⟩
  · split at h
    · exact absurd h (by simp)
    · next hne => exact .inr ⟨hne, h⟩

theorem Sound.move (sound : d.Sound) (hold : d.node? old = some node) (hnode : node ≠ .dir)
    (hdir : d.node? dir = some .dir) (hname : Plain name)
    (hnew : d.node? (dir ++ [name]) ≠ some .dir) (ne : old ≠ dir ++ [name]) :
    (d.move old (dir ++ [name])).Sound := by
  have dirs : ∀ {loc : Location}, d.node? loc = some .dir →
      (d.move old (dir ++ [name])).node? loc = some .dir :=
    sound.dir_move hold hnode ne (by simp) hnew
  have source : ∀ {loc : Location} {other : Node},
      (d.move old (dir ++ [name])).node? loc = some other →
        (loc = dir ++ [name] ∧ d.node? old = some other) ∨
          (loc ≠ old ∧ d.node? loc = some other) :=
    sound.node_of_move hold hnode ne (by simp)
  refine
    { once := nodup_move sound.once (sound.bare hold hnode) _
      parent := ?_
      plain := ?_
      numbered := ?_
      single := ?_
      start := dirs sound.start }
  · intro loc key other h
    rcases source h with ⟨heq, -⟩ | ⟨-, h⟩
    · obtain ⟨rfl, -⟩ := List.append_inj' heq rfl
      exact dirs hdir
    · exact dirs (sound.parent h)
  · intro loc key other h
    rcases source h with ⟨heq, -⟩ | ⟨-, h⟩
    · obtain ⟨-, hkey⟩ := List.append_inj' heq rfl
      rw [List.cons.injEq] at hkey
      exact hkey.1 ▸ hname
    · exact sound.plain h
  · intro loc id h
    rcases source h with ⟨-, h⟩ | ⟨-, h⟩ <;> exact sound.numbered h
  · intro loc loc' id h h'
    rcases source h with ⟨hloc, h₁⟩ | ⟨hloc, h₁⟩ <;> rcases source h' with ⟨hloc', h₂⟩ | ⟨hloc', h₂⟩
    · rw [hloc, hloc']
    · exact absurd (sound.single h₂ h₁) hloc'
    · exact absurd (sound.single h₁ h₂) hloc
    · exact sound.single h₁ h₂

end Move

/-! ### Listings -/

section Listing

variable {d : Disk} {loc : Location}

theorem node?_of_mem (sound : d.Sound) {place : Location} {node : Node}
    (h : (place, node) ∈ d.nodes) (hplace : place ≠ []) : d.node? place = some node := by
  rw [d.node?_of_ne_nil hplace]
  have once := sound.once
  generalize d.nodes = nodes at h once
  induction nodes with
  | nil => exact absurd h List.not_mem_nil
  | cons entry rest ih =>
    obtain ⟨key, value⟩ := entry
    rw [List.map_cons, List.nodup_cons] at once
    rcases List.mem_cons.mp h with heq | hmem
    · rw [Prod.mk.injEq] at heq
      rw [heq.1, heq.2, List.lookup_cons, beq_self_eq_true]
    · have hne : place ≠ key := by
        rintro rfl
        exact once.1 (List.mem_map.mpr ⟨_, hmem, rfl⟩)
      rw [List.lookup_cons, beq_false_of_ne hne]
      exact ih hmem once.2

theorem mem_children {entry : Name × Node} (h : entry ∈ d.children loc) :
    (loc ++ [entry.1], entry.2) ∈ d.nodes := by
  rw [children, List.mem_filterMap] at h
  obtain ⟨⟨place, node⟩, hmem, hentry⟩ := h
  cases hlast : place.getLast? with
  | none => simp [hlast] at hentry
  | some name =>
    simp only [hlast] at hentry
    split at hentry
    · next hfront =>
      rw [Option.some.injEq] at hentry
      subst hentry
      obtain ⟨front, rfl⟩ := List.getLast?_eq_some_iff.mp hlast
      rw [List.dropLast_concat] at hfront
      rwa [← hfront]
    · exact absurd hentry (by simp)

theorem mem_children_of_mem {name : Name} {node : Node} (h : (loc ++ [name], node) ∈ d.nodes) :
    (name, node) ∈ d.children loc := by
  rw [children, List.mem_filterMap]
  exact ⟨_, h, by simp⟩

/-- A disk lists what there is, in whatever order. -/
theorem inListingOrder_perm (d : Disk) (entries : List (Name × Node)) :
    (d.inListingOrder entries).Perm entries := by
  rw [inListingOrder]
  split
  · exact List.mergeSort_perm _ _
  · exact List.reverse_perm _

theorem nodup_children (sound : d.Sound) : ((d.children loc).map Prod.fst).Nodup := by
  have once := sound.once
  rw [children]
  generalize d.nodes = nodes at once
  induction nodes with
  | nil => exact List.nodup_nil
  | cons entry rest ih =>
    obtain ⟨place, node⟩ := entry
    rw [List.map_cons, List.nodup_cons] at once
    have ih := ih once.2
    rw [List.filterMap_cons]
    split
    · exact ih
    · next named hnamed =>
      rw [List.map_cons, List.nodup_cons]
      refine ⟨fun hmem => ?_, ih⟩
      -- another entry of this name would have the same place
      have hplace : place = loc ++ [named.1] := by
        have hmem := @mem_children { d with nodes := [(place, node)] } loc named
        rw [children, List.filterMap_cons, hnamed] at hmem
        simpa using congrArg Prod.fst (List.mem_singleton.mp (hmem (by simp))).symm
      obtain ⟨other, hother, hname⟩ := List.mem_map.mp hmem
      have hplace' := @mem_children { d with nodes := rest } loc other hother
      rw [hname, ← hplace] at hplace'
      exact once.1 (List.mem_map.mpr ⟨_, hplace', rfl⟩)

end Listing

theorem fresh_sound {start : Name} (h : Plain start) (ne : start ≠ "dev".toList) :
    (fresh start).Sound := by
  have nodes : ∀ {loc : Location} {node : Node}, (fresh start).node? loc = some node →
      (loc = [] ∧ node = .dir) ∨ (loc = ["dev".toList] ∧ node = .dir) ∨
        (loc = ["dev".toList, "full".toList] ∧ node = .full) ∨ (loc = [start] ∧ node = .dir) := by
    intro loc node hloc
    by_cases hnil : loc = []
    · subst hnil
      rw [node?_nil] at hloc
      exact .inl ⟨rfl, (Option.some.inj hloc).symm⟩
    · rw [node?_of_ne_nil _ hnil] at hloc
      have hmem := mem_of_lookup hloc
      simp only [fresh, List.mem_cons, Prod.mk.injEq, List.not_mem_nil, or_false] at hmem
      exact .inr hmem
  have root : (fresh start).node? [] = some .dir := node?_nil _
  have dev : (fresh start).node? ["dev".toList] = some .dir := rfl
  have plainDev : Plain "dev".toList := ⟨by decide, by decide, by decide, by decide⟩
  have plainFull : Plain "full".toList := ⟨by decide, by decide, by decide, by decide⟩
  have split : ∀ {loc : Location} {name : Name} {node : Node},
      (fresh start).node? (loc ++ [name]) = some node →
        (fresh start).node? loc = some .dir ∧ Plain name := by
    intro loc name node hloc
    rcases nodes hloc with ⟨heq, -⟩ | ⟨heq, -⟩ | ⟨heq, -⟩ | ⟨heq, -⟩
    · exact absurd heq (by simp)
    · have heq : loc ++ [name] = [] ++ ["dev".toList] := heq
      obtain ⟨rfl, hname⟩ := List.append_inj' heq rfl
      rw [List.cons.injEq] at hname
      exact ⟨root, hname.1 ▸ plainDev⟩
    · have heq : loc ++ [name] = ["dev".toList] ++ ["full".toList] := heq
      obtain ⟨rfl, hname⟩ := List.append_inj' heq rfl
      rw [List.cons.injEq] at hname
      exact ⟨dev, hname.1 ▸ plainFull⟩
    · have heq : loc ++ [name] = [] ++ [start] := heq
      obtain ⟨rfl, hname⟩ := List.append_inj' heq rfl
      rw [List.cons.injEq] at hname
      exact ⟨root, hname.1 ▸ h⟩
  have noFile : ∀ {loc : Location} {id : Nat}, (fresh start).node? loc ≠ some (.file id) := by
    intro loc id hloc
    rcases nodes hloc with ⟨-, hnode⟩ | ⟨-, hnode⟩ | ⟨-, hnode⟩ | ⟨-, hnode⟩ <;>
      exact absurd hnode (by simp)
  have ne : start ≠ ['d', 'e', 'v'] := ne
  exact
    { once := by simp [fresh, Ne.symm ne]
      parent := fun hloc => (split hloc).1
      plain := fun hloc => (split hloc).2
      numbered := fun hloc => absurd hloc noFile
      single := fun hloc _ => absurd hloc noFile
      start := by
        rw [node?_of_ne_nil _ (by simp [fresh])]
        simp [fresh, List.lookup_cons, beq_false_of_ne ne] }

end Outbox.Disk
