import Outbox.Proofs.Destination.Objects
import Outbox.Proofs.Disk.Existing
import Outbox.Proofs.Text.Utf8

/-!
# Keys of objects

A key goes through the base of the store, then through the segments that the connection names, and
ends in one segment for the file. That segment can be read back: percent decoding undoes percent
encoding whenever the percent sign is encoded itself (`Percent.decode_encode`), so that no two file
names come to one segment, whatever is in them. It is a segment like any other, since an encoded
name has no slash and the two names that mean directories are encoded too.
-/

set_option autoImplicit false

namespace Outbox

/-! ### Reading triples back -/

namespace Percent

theorem decode_triple (b : UInt8) (rest : Text) : decode (triple b ++ rest) = b :: decode rest := by
  have digit : ∀ n < 16, Digits.hex? (Digits.upperHex n) = some n := by decide
  have hsize : b.toNat < 256 := b.toNat_lt
  rw [triple]
  simp only [List.cons_append, List.nil_append, decode]
  rw [digit _ (by omega), digit _ (by omega)]
  have hwhole : b.toNat / 16 * 16 + b.toNat % 16 = b.toNat := by omega
  simp only [hwhole, UInt8.ofNat_toNat]

theorem decode_triples (bytes : Bytes) (rest : Text) :
    decode (bytes.flatMap triple ++ rest) = bytes ++ decode rest := by
  induction bytes with
  | nil => rfl
  | cons b bytes ih =>
    rw [List.flatMap_cons, List.append_assoc, decode_triple, ih]
    rfl

theorem decode_cons {c : Char} (hc : c ≠ '%') (rest : Text) :
    decode (c :: rest) = String.utf8EncodeChar c ++ decode rest := by
  rw [decode]
  rintro high low more ⟨⟩
  exact absurd rfl hc

/-- Where the percent sign is encoded, decoding gives the bytes of the text. -/
theorem decode_encode {reserved : Char → Bool} (hpercent : reserved '%' = true) (text : Text) :
    decode (encode reserved text) = Utf8.encode text := by
  induction text with
  | nil => rfl
  | cons c text ih =>
    have hcons : encode reserved (c :: text)
        = (if reserved c || 128 ≤ c.toNat then (String.utf8EncodeChar c).flatMap triple else [c])
          ++ encode reserved text := rfl
    rw [hcons, Utf8.encode, List.flatMap_cons]
    split
    · rw [decode_triples, ih, Utf8.encode]
    · next hplain =>
      have hc : c ≠ '%' := by
        rintro rfl
        exact hplain (by simp [hpercent])
      rw [List.singleton_append, decode_cons hc, ih, Utf8.encode]

end Percent

/-! ### File names -/

theorem Path.fileName?_ne_nil {p : Path} {name : Name} (h : p.fileName? = some name) :
    name ≠ [] := by
  have ofPiece : ∀ {piece : Name}, Component.ofPiece piece = .entry name → piece = name := by
    intro piece heq
    rw [Component.ofPiece] at heq
    split at heq
    · exact absurd heq (by simp)
    · exact Component.entry.inj heq
  have hmem : Component.entry name ∈ p.components := by
    rw [fileName?] at h
    split at h
    · next heq =>
      rw [← Option.some.inj h]
      exact List.mem_of_getLast? heq
    · exact absurd h (by simp)
  rw [components] at hmem
  split at hmem
  · exact absurd hmem List.not_mem_nil
  next first rest _ =>
  rcases List.mem_append.mp hmem with hfirst | hrest
  · split at hfirst
    · exact absurd (List.mem_singleton.mp hfirst) (by simp)
    split at hfirst
    · exact absurd hfirst List.not_mem_nil
    next hne =>
    split at hfirst
    · exact absurd (List.mem_singleton.mp hfirst) (by simp)
    · rwa [← ofPiece (List.mem_singleton.mp hfirst).symm]
  · obtain ⟨piece, hpiece, heq⟩ := List.mem_map.mp hrest
    obtain rfl := ofPiece heq
    rintro rfl
    exact absurd (List.mem_filter.mp hpiece).2 (by simp [isIdle])

namespace ObjectKey

/-- A segment is read back as the bytes of the file name. -/
theorem decode_segmentOfName (name : Name) :
    Percent.decode (segmentOfName name) = Utf8.encode name := by
  rw [segmentOfName]
  split
  · next hdots =>
    simp only [Bool.or_eq_true, decide_eq_true_eq] at hdots
    -- each dot is encoded by hand, and read back like any other triple
    rcases hdots with rfl | rfl
    · decide
    · decide
  · exact Percent.decode_encode (by decide) name

theorem segmentOfName_injective {name other : Name} (h : segmentOfName name = segmentOfName other) :
    name = other := by
  have hbytes : Utf8.encode name = Utf8.encode other := by
    rw [← decode_segmentOfName, h, decode_segmentOfName]
  have hname := Utf8.decode_ok_iff.mpr hbytes
  rw [Utf8.decode_ok_iff.mpr rfl] at hname
  exact (Except.ok.inj hname).symm

/-! ### Texts of keys -/

theorem pieces_text {key : ObjectKey} (proper : key.Proper) (h : key.segments ≠ []) :
    Path.pieces key.text = key.segments :=
  Path.pieces_glue h fun segment hmem => (proper segment hmem).no_slash

theorem text_ofText {text : Text} {key : ObjectKey} (h : ofText text = .ok key)
    (first : text.head? ≠ some '/') (last : text.getLast? ≠ some '/') : key.text = text := by
  simp only [ofText, if_neg first, if_neg last] at h
  split at h
  · next hnil =>
    rw [← Except.ok.inj h, hnil]
    rfl
  · cases hchecked : checked text (Path.pieces text) with
    | error e => rw [hchecked] at h; exact absurd h (by simp [Except.map])
    | ok segments =>
      rw [hchecked] at h
      rw [← Except.ok.inj h, (checked_ok hchecked).1]
      exact Path.glue_pieces text

end ObjectKey

section Strip

variable {p : Char → Bool} {text : Text} {c : Char}

theorem Text.getLast?_dropEndWhile (h : (dropEndWhile p text).getLast? = some c) : p c = false := by
  rw [dropEndWhile, List.getLast?_reverse] at h
  have hhead := List.head?_dropWhile_not p text.reverse
  rwa [h] at hhead

theorem Text.head?_stripWhile (h : (stripWhile p text).head? = some c) : p c = false := by
  obtain ⟨tail, htail⟩ : dropEndWhile p (text.dropWhile p) <+: text.dropWhile p := by
    have hsuffix := List.dropWhile_suffix (l := (text.dropWhile p).reverse) p
    simpa [dropEndWhile] using List.reverse_prefix.mpr hsuffix
  have hhead := List.head?_dropWhile_not p text
  rw [stripWhile] at h
  rw [← htail, List.head?_append, h] at hhead
  exact hhead

end Strip

/-! ### Keys of a store -/

/-- What a connection says about the keys of a store, without blanks and slashes at its ends. -/
def Connection.keyFront (connection : Connection) : Text :=
  Text.stripWhile (· = '/') (Text.strip connection.rest)

namespace ObjectStore

variable {url : Text} {s s' : ObjectStore} {connection : Connection}

theorem proper_of_ofUrlText (h : ofUrlText url = .ok s) : s.base.Proper := by
  rw [ofUrlText] at h
  split at h
  · exact absurd h (by simp)
  split at h
  · exact absurd h (by simp)
  next shelf base hstore =>
  obtain rfl : s.base = base := by rw [← Except.ok.inj h]
  rw [Shelf.ofUrl] at hstore
  split at hstore
  · exact absurd hstore (by simp)
  split at hstore
  · exact absurd hstore (by simp)
  next kind path _ _ base hpath =>
  obtain rfl : base = s.base := by
    cases hkind : Shelf.ofKind _ kind with
    | error e => rw [hkind] at hstore; exact absurd hstore (by simp [Except.map])
    | ok shelf => rw [hkind] at hstore; exact (Prod.mk.inj (Except.ok.inj hstore)).2
  rw [ObjectKey.ofUrlPath] at hpath
  split at hpath
  · exact absurd hpath (by simp)
  · exact ObjectKey.proper_of_ofText hpath

theorem configure_ok (h : s.configure connection = (.ok (), s')) :
    s'.shelf = s.shelf ∧ s'.base = s.base ∧
      ObjectKey.ofText connection.keyFront = .ok s'.front := by
  simp only [configure] at h
  split at h
  · exact absurd h (by simp)
  · next front hfront =>
    simp only [Prod.mk.injEq, true_and] at h
    subst h
    exact ⟨rfl, rfl, hfront⟩

theorem configure_of_ofText {front : ObjectKey}
    (h : ObjectKey.ofText connection.keyFront = .ok front) :
    s.configure connection = (.ok (), { s with front }) := by
  rw [Connection.keyFront] at h
  simp only [configure, h]

theorem text_front (h : s.configure connection = (.ok (), s')) :
    s'.front.text = connection.keyFront := by
  obtain ⟨-, -, hfront⟩ := configure_ok h
  apply ObjectKey.text_ofText hfront
  · intro hhead
    exact absurd (Text.head?_stripWhile hhead) (by simp)
  · intro hlast
    exact absurd (Text.getLast?_dropEndWhile hlast) (by simp)

theorem keyFor_of_fileName? {q : Path} {name : Name} (h : q.fileName? = some name) :
    s.keyFor q = .ok (ObjectKey.ofName s.base s.front name) := by
  rw [keyFor, uploadName, h]
  rfl

/-- The key for a file name: the segments of the base, then those of the connection, then one
segment from which the name can be read. -/
structure KeyFor (s : ObjectStore) (name : Name) (key : ObjectKey) : Prop where
  segments : ∃ segment, key.segments = s.base.segments ++ s.front.segments ++ [segment] ∧
    Plain segment ∧ Utf8.decode (Percent.decode segment) = .ok name
  /-- The text of the key, cut at its slashes, gives the segments back. -/
  pieces : Path.pieces key.text = key.segments

theorem keyFor_ofName (base : s.base.Proper) (front : s.front.Proper) {name : Name}
    (named : name ≠ []) : s.KeyFor name (ObjectKey.ofName s.base s.front name) where
  segments := ⟨ObjectKey.segmentOfName name, rfl, ObjectKey.plain_segmentOfName named,
    Utf8.decode_ok_iff.mpr (ObjectKey.decode_segmentOfName name).symm⟩
  pieces := ObjectKey.pieces_text (ObjectKey.proper_ofName base front named) (by
    simp [ObjectKey.ofName])

/-- In a store that has taken a connection, every path that ends in a file name has a key, which
stays under the base and the connection's own keys, and different file names have keys of different
texts. -/
theorem keys_apart (base : s.base.Proper) (accepted : s.configure connection = (.ok (), s')) :
    s'.base = s.base ∧ s'.front.text = connection.keyFront ∧
    (∀ {p : Path} {name : Name}, p.fileName? = some name →
      ∃ key, s'.keyFor p = .ok key ∧ s'.KeyFor name key) ∧
    ∀ {p q : Path} {name other : Name} {key key' : ObjectKey}, p.fileName? = some name →
      q.fileName? = some other → name ≠ other → s'.keyFor p = .ok key → s'.keyFor q = .ok key' →
        key.text ≠ key'.text := by
  obtain ⟨-, hbase, hfront⟩ := configure_ok accepted
  have front := ObjectKey.proper_of_ofText hfront
  rw [← hbase] at base
  have keyFor {name : Name} {p : Path} (h : p.fileName? = some name) :=
    keyFor_ofName base front (Path.fileName?_ne_nil h)
  refine ⟨hbase, text_front accepted, fun h => ⟨_, keyFor_of_fileName? h, keyFor h⟩, ?_⟩
  intro p q name other key key' hp hq hne hkey hkey' htext
  rw [keyFor_of_fileName? hp] at hkey
  rw [keyFor_of_fileName? hq] at hkey'
  obtain rfl := Except.ok.inj hkey
  obtain rfl := Except.ok.inj hkey'
  have hsegments := congrArg Path.pieces htext
  rw [(keyFor hp).pieces, (keyFor hq).pieces] at hsegments
  obtain ⟨-, hlast⟩ := List.append_inj' hsegments rfl
  exact hne (ObjectKey.segmentOfName_injective (List.cons.inj hlast).1)

/-- A name that looks like the encoded form of another one has a key of its own, under the segments
that the base and the connection name. -/
theorem keys_apart_under_front :
    ∃ s s' key key', ofUrlText "memory:///raw".toList = .ok s ∧
      s.configure (Connection.ofText "buf: /forwarder/host-17/".toList) = (.ok (), s') ∧
      s'.keyFor ⟨"buf/a#1".toList⟩ = .ok key ∧ s'.keyFor ⟨"buf/a%231".toList⟩ = .ok key' ∧
      key.text = "raw/forwarder/host-17/a%231".toList ∧ key.text ≠ key'.text := by
  have hraw : (ofUrlText "memory:///raw".toList).toOption.map (·.base) = some ⟨["raw".toList]⟩ := by
    decide +kernel
  rw [Option.map_eq_some_iff] at hraw
  obtain ⟨s, hs, hbase⟩ := hraw
  have chosen : ofUrlText "memory:///raw".toList = .ok s := by
    cases h : ofUrlText "memory:///raw".toList with
    | error e => rw [h] at hs; exact absurd hs (by simp [Except.toOption])
    | ok store => rw [h] at hs; rw [Option.some.inj hs]
  have hfront : ObjectKey.ofText (Connection.ofText "buf: /forwarder/host-17/".toList).keyFront
      = .ok ⟨["forwarder".toList, "host-17".toList]⟩ := rfl
  have accepted := configure_of_ofText (s := s) hfront
  obtain ⟨hbase', -, -, ne⟩ := keys_apart (proper_of_ofUrlText chosen) accepted
  have hname : Path.fileName? ⟨"buf/a#1".toList⟩ = some "a#1".toList := by decide
  have hother : Path.fileName? ⟨"buf/a%231".toList⟩ = some "a%231".toList := by decide
  refine ⟨s, _, _, _, chosen, accepted, keyFor_of_fileName? hname, keyFor_of_fileName? hother, ?_,
    ne hname hother (by decide) (keyFor_of_fileName? hname) (keyFor_of_fileName? hother)⟩
  rw [hbase', hbase]
  show (ObjectKey.ofName _ ⟨["forwarder".toList, "host-17".toList]⟩ _).text = _
  decide

end ObjectStore

end Outbox
