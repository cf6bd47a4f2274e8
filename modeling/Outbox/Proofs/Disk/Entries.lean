import Outbox.Disk.Tree

/-!
# The entries of a disk

What each change of a disk does to the entry at a location, and the disks that can be met at all:
every entry lies in a directory, has a name that can be one, and no content has two names.
-/

set_option autoImplicit false

namespace Outbox

/-- A name that an entry can have. -/
structure Plain (name : Name) : Prop where
  ne_nil : name ≠ []
  no_slash : '/' ∉ name
  ne_dot : name ≠ ['.']
  ne_up : name ≠ ['.', '.']

/-- A name that does not lead on by itself, and so can be the last one of a search. -/
def Last (name : Name) : Prop :=
  name ≠ ['.'] ∧ name ≠ ['.', '.']

theorem Plain.last {name : Name} (plain : Plain name) : Last name :=
  ⟨plain.ne_dot, plain.ne_up⟩

namespace Disk

/-! ### Looking up -/

section Lookup

variable {α β : Type} [BEq α] [LawfulBEq α]

theorem mem_of_lookup {k : α} {v : β} {l : List (α × β)} (h : l.lookup k = some v) :
    (k, v) ∈ l := by
  obtain ⟨l₁, l₂, rfl, -⟩ := List.lookup_eq_some_iff.mp h
  simp

theorem exists_lookup_of_mem {k : α} {v : β} {l : List (α × β)} (h : (k, v) ∈ l) :
    ∃ v', l.lookup k = some v' := by
  cases hl : l.lookup k with
  | some v' => exact ⟨v', rfl⟩
  | none => exact absurd (List.lookup_eq_none_iff.mp hl (k, v) h) (by simp)

theorem lookup_filter (p : α → Bool) (k : α) (l : List (α × β)) :
    (l.filter fun entry => p entry.1).lookup k = if p k then l.lookup k else none := by
  induction l with
  | nil => simp
  | cons entry rest ih =>
    obtain ⟨key, value⟩ := entry
    by_cases hp : p key
    · rw [List.filter_cons_of_pos (by simpa using hp), List.lookup_cons, List.lookup_cons, ih]
      by_cases hk : k = key
      · subst hk
        simp [hp]
      · rw [beq_false_of_ne hk]
    · rw [List.filter_cons_of_neg (by simpa using hp), ih, List.lookup_cons]
      by_cases hk : k = key
      · subst hk
        simp [hp]
      · rw [beq_false_of_ne hk]

theorem lookup_map_of_keys [DecidableEq α] (f : α → α) (old k : α) (l : List (α × β))
    (keys : ∀ entry ∈ l, entry.1 = old) :
    (l.map fun entry => (f entry.1, entry.2)).lookup k
      = if k = f old then l.lookup old else none := by
  cases l with
  | nil => simp
  | cons entry rest =>
    obtain ⟨key, value⟩ := entry
    have hkey : key = old := keys (key, value) (by simp)
    subst hkey
    by_cases hk : k = f key
    · subst hk
      simp
    · rw [if_neg hk, List.lookup_eq_none_iff]
      intro entry hentry
      obtain ⟨source, hsource, rfl⟩ := List.mem_map.mp hentry
      rw [keys source hsource]
      simpa using hk

end Lookup

@[simp] theorem node?_nil (d : Disk) : d.node? [] = some .dir := by
  simp [node?]

theorem node?_of_ne_nil (d : Disk) {loc : Location} (h : loc ≠ []) :
    d.node? loc = d.nodes.lookup loc := by
  simp [node?, h]

/-- The entry at a location that ends in a name. -/
theorem node?_entry (d : Disk) (dir : Location) (name : Name) :
    d.node? (dir ++ [name]) = d.nodes.lookup (dir ++ [name]) :=
  d.node?_of_ne_nil (by simp)

theorem fileAt?_of_node {d : Disk} {loc : Location} {id : Nat} (h : d.node? loc = some (.file id)) :
    d.fileAt? loc = some (d.content id) := by
  rw [fileAt?, h]

theorem node_of_fileAt? {d : Disk} {loc : Location} {bytes : Bytes}
    (h : d.fileAt? loc = some bytes) :
    ∃ id, d.node? loc = some (.file id) ∧ d.content id = bytes := by
  rw [fileAt?] at h
  split at h
  · next id hnode => exact ⟨id, hnode, Option.some.inj h⟩
  · exact absurd h (by simp)

theorem fileAt?_congr {d d' : Disk} {loc : Location} (node : d'.node? loc = d.node? loc)
    (content : ∀ {id : Nat}, d.node? loc = some (.file id) → d'.content id = d.content id) :
    d'.fileAt? loc = d.fileAt? loc := by
  rw [fileAt?, fileAt?, node]
  split
  · next id hnode => rw [content hnode]
  · rfl

@[simp] theorem node?_faults (d : Disk) (faults : List (Option OsError)) (loc : Location) :
    ({ d with faults } : Disk).node? loc = d.node? loc := rfl

@[simp] theorem content_faults (d : Disk) (faults : List (Option OsError)) (id : Nat) :
    ({ d with faults } : Disk).content id = d.content id := rfl

@[simp] theorem node?_setContent (d : Disk) (id : Nat) (bytes : Bytes) (loc : Location) :
    (d.setContent id bytes).node? loc = d.node? loc := rfl

theorem node?_put (d : Disk) (place loc : Location) (node : Node) (h : place ≠ []) :
    (d.put place node).node? loc = if loc = place then some node else d.node? loc := by
  by_cases hloc : loc = []
  · subst hloc
    simp [h.symm]
  · rw [node?_of_ne_nil _ hloc, node?_of_ne_nil _ hloc]
    show (d.nodes.filter (fun entry => decide (entry.1 ≠ place))
      ++ [(place, node)]).lookup loc = _
    rw [List.lookup_append, lookup_filter (fun key => decide (key ≠ place)), List.lookup_cons]
    by_cases hp : loc = place
    · simp [hp]
    · rw [beq_false_of_ne hp]
      simp [hp]

theorem node?_take (d : Disk) (place loc : Location) (h : place ≠ []) :
    (d.take place).node? loc = if loc = place then none else d.node? loc := by
  by_cases hloc : loc = []
  · subst hloc
    simp [h.symm]
  · rw [node?_of_ne_nil _ hloc, node?_of_ne_nil _ hloc]
    change (d.nodes.filter fun entry => decide (entry.1 ≠ place)).lookup loc = _
    rw [lookup_filter (fun key => decide (key ≠ place))]
    by_cases hp : loc = place <;> simp [hp]

theorem node?_putNewFile (d : Disk) (place loc : Location) (h : place ≠ []) :
    (d.putNewFile place).1.node? loc
      = if loc = place then some (.file d.contents.length) else d.node? loc :=
  node?_put d place loc _ h

theorem content_putNewFile (d : Disk) (place : Location) (id : Nat) :
    (d.putNewFile place).1.content id = d.content id := by
  change (d.contents ++ [[]]).getD id [] = d.contents.getD id []
  by_cases h : id < d.contents.length
  · simp [List.getElem?_append_left h]
  · rw [List.getD_eq_getElem?_getD, List.getD_eq_getElem?_getD,
      List.getElem?_append_right (Nat.le_of_not_lt h),
      List.getElem?_eq_none (Nat.le_of_not_lt h : d.contents.length ≤ id)]
    cases hid : id - d.contents.length <;> simp

theorem content_setContent (d : Disk) (id other : Nat) (bytes : Bytes)
    (h : id < d.contents.length) :
    (d.setContent id bytes).content other = if other = id then bytes else d.content other := by
  change (d.contents.set id bytes).getD other [] = _
  rw [List.getD_eq_getElem?_getD, List.getElem?_set]
  by_cases hid : id = other
  · subst hid
    simp [h]
  · simp [hid, Ne.symm hid, content]

/-- Nothing lies below an entry. -/
def Bare (d : Disk) (loc : Location) : Prop :=
  ∀ entry ∈ d.nodes, loc <+: entry.1 → entry.1 = loc

theorem Bare.eq_of_moved {d : Disk} {old : Location} (bare : d.Bare old) (new : Location) :
    ∀ entry ∈ (d.take new).nodes.filter (fun entry => old.isPrefixOf entry.1), entry.1 = old := by
  intro entry hentry
  obtain ⟨hmem, hpre⟩ := List.mem_filter.mp hentry
  exact bare entry (List.mem_filter.mp hmem).1 (List.isPrefixOf_iff_prefix.mp hpre)

/-- A bare entry moves alone. -/
theorem node?_move {d : Disk} {old new : Location} (bare : d.Bare old) (ne : old ≠ new)
    (hold : old ≠ []) (hnew : new ≠ []) (loc : Location) :
    (d.move old new).node? loc
      = if loc = new then d.node? old else if loc = old then none else d.node? loc := by
  by_cases hloc : loc = []
  · subst hloc
    simp [hold.symm, hnew.symm]
  have hmoved : ((d.take new).nodes.filter (fun entry => old.isPrefixOf entry.1)).lookup old
      = d.node? old := by
    rw [lookup_filter (fun key => old.isPrefixOf key),
      if_pos (List.isPrefixOf_iff_prefix.mpr (List.prefix_refl old)),
      ← node?_of_ne_nil _ hold, node?_take d new old hnew, if_neg ne]
  have hstay : ((d.take new).nodes.filter (fun entry => !old.isPrefixOf entry.1)).lookup loc
      = if loc = new then none else if loc = old then none else d.node? loc := by
    rw [lookup_filter (fun key => !old.isPrefixOf key), ← node?_of_ne_nil _ hloc,
      node?_take d new loc hnew]
    by_cases hpre : old.isPrefixOf loc
    · simp only [hpre, Bool.not_true, Bool.false_eq_true, if_false]
      by_cases hl : loc = old
      · simp [hl]
      · have : d.node? loc = none := by
          cases hn : d.node? loc with
          | none => rfl
          | some node =>
            rw [node?_of_ne_nil _ hloc] at hn
            have hmem : (loc, node) ∈ d.nodes := mem_of_lookup hn
            exact absurd (bare _ hmem (List.isPrefixOf_iff_prefix.mp hpre)) hl
        simp [hl, this]
    · have hl : loc ≠ old := by
        rintro rfl
        exact hpre (List.isPrefixOf_iff_prefix.mpr (List.prefix_refl _))
      simp [hpre, hl]
  have hmap := lookup_map_of_keys (fun key => new ++ key.drop old.length) old loc _
    (bare.eq_of_moved new)
  rw [List.drop_length, List.append_nil, hmoved] at hmap
  rw [node?_of_ne_nil _ hloc]
  change (((d.take new).nodes.filter fun entry => !old.isPrefixOf entry.1)
    ++ ((d.take new).nodes.filter fun entry => old.isPrefixOf entry.1).map
      fun entry => (new ++ entry.1.drop old.length, entry.2)).lookup loc = _
  rw [List.lookup_append, hstay, hmap]
  by_cases h1 : loc = new
  · simp [h1]
  · by_cases h2 : loc = old <;> simp [h1, h2]

end Disk

end Outbox
