import Streaming.Rtmp.Messages
import Streaming.Rtmp.SentMetadata

/-!
# The metadata that is read

The loop over the entries of the array reads numbers, booleans and strings.  A
value of another type is left where it is, and its key is stored with the value
of the entry before.
-/

namespace Streaming
namespace Rtmp

open Foundation Network Util

namespace AmfDecoder

/-!
## Reading what is known
-/

/-- From a buffer that begins with the bytes, exactly these are read. -/
def Yields {value : Type} (m : Load value) (bytes : Bytes) (a : value) : Prop :=
  forall b tail, b.Valid -> b.unread = bytes ++ tail ->
    exists b', m b = .ok a b' ∧ b'.Valid ∧ b'.unread = tail

theorem yields_pure {value : Type} (a : value) :
    Yields (pure a : Load value) [] a :=
  fun b _ hb h => ⟨b, rfl, hb, h⟩

theorem Yields.bind {value result : Type} {m : Load value}
    {f : value -> Load result} {first second : Bytes} {a : value} {r : result}
    (hm : Yields m first a) (hf : Yields (f a) second r) :
    Yields (m >>= f) (first ++ second) r := by
  intro b tail hb h
  rw [List.append_assoc] at h
  rcases hm b (second ++ tail) hb h with ⟨t, hfirst, ht, hunread⟩
  rw [bind_of_ok hfirst]
  exact hf t tail ht hunread

theorem yields_consume (bytes : Bytes) :
    Yields (FlatBuffer.consumeOrFail bytes.length) bytes () := by
  intro b tail hb h
  have hle := hb.length_le h
  refine ⟨_, FlatBuffer.consumeOrFail_of_le hle,
    FlatBuffer.safeConsume_valid hb _, ?_⟩
  rw [FlatBuffer.safeConsume_unread hle, h, List.drop_left]

/-- A look at the first bytes, and then they are consumed. -/
theorem yields_of_peek {value : Type} {peek : Load value} {bytes : Bytes}
    {a : value} (hpeek : forall b tail, b.Valid -> b.unread = bytes ++ tail ->
      peek b = .ok a b) :
    Yields (do let x <- peek; FlatBuffer.consumeOrFail bytes.length; return x)
      bytes a := by
  intro b tail hb h
  rw [bind_of_ok (hpeek b tail hb h)]
  have hrest := (yields_consume bytes).bind (f := fun _ => pure a)
    (yields_pure a)
  rw [List.append_nil] at hrest
  exact hrest b tail hb h

theorem peekFront_eq {b : FlatBuffer} {x : UInt8} {tail : Bytes}
    (hb : b.Valid) (h : b.unread = x :: tail) :
    peekFront b = .ok x.toNat b := by
  have hfront : b.unread = [x] ++ tail := h
  have hle : 1 <= b.unreadLength := hb.length_le hfront
  rcases FlatBuffer.exists_data_eq hfront with ⟨more, hdata⟩
  unfold peekFront FlatBuffer.peekUint8
  rw [if_neg (Nat.not_lt.mpr hle), hdata]
  rfl

theorem yields_popFront (x : UInt8) : Yields popFront [x] x.toNat :=
  yields_of_peek fun _ _ hb h => peekFront_eq hb h

theorem yields_expect {x : UInt8} {marker : Nat} (what : String)
    (h : x.toNat = marker) : Yields (expect marker what) [x] () := by
  have hthrow : Yields
      (if x.toNat ≠ marker then throw what else pure () : Load PUnit) [] () := by
    rw [if_neg (not_not.mpr h)]
    exact yields_pure ()
  exact (yields_popFront x).bind hthrow

theorem loadBe16_bigEndian (val : Nat) (more : Bytes) :
    loadBe16 (bigEndian 2 val ++ more) = val % 2 ^ 16 := by
  have hbytes : bigEndian 2 val ++ more =
      UInt8.ofNat (val >>> 8) :: UInt8.ofNat (val >>> 0) :: more := rfl
  have hlow := byteAt_lt (bigEndian 2 val ++ more) 1
  unfold loadBe16
  rw [or_byte _ _ hlow, hbytes]
  simp only [byteAt_cons_zero, byteAt_cons_succ, UInt8.toNat_ofNat',
    Nat.shiftRight_eq_div_pow]
  omega

theorem loadBe32_bigEndian (val : Nat) (more : Bytes) :
    loadBe32 (bigEndian 4 val ++ more) = val % 2 ^ 32 := by
  have hbytes : bigEndian 4 val ++ more =
      UInt8.ofNat (val >>> 24) :: UInt8.ofNat (val >>> 16) ::
        UInt8.ofNat (val >>> 8) :: UInt8.ofNat (val >>> 0) :: more := rfl
  rw [loadBe32_eq, hbytes]
  simp only [byteAt_cons_zero, byteAt_cons_succ, UInt8.toNat_ofNat',
    Nat.shiftRight_eq_div_pow]
  omega

theorem yields_uint16 {val : Nat} (h : val < 2 ^ 16) :
    Yields FlatBuffer.readUint16 (bigEndian 2 val) val := by
  apply yields_of_peek
  intro b tail hb hunread
  have hle : 2 <= b.unreadLength := hb.length_le hunread
  rcases FlatBuffer.exists_data_eq hunread with ⟨more, hdata⟩
  unfold FlatBuffer.peekUint16
  rw [if_neg (Nat.not_lt.mpr hle), hdata, loadBe16_bigEndian,
    Nat.mod_eq_of_lt h]

/-- The two halves of a number of 64 bits. -/
theorem bigEndian_eight (val : Nat) :
    bigEndian 8 val = bigEndian 4 (val >>> 32) ++ bigEndian 4 val := by
  simp [bigEndian, ← Nat.shiftRight_add]

theorem peekUint64_eq {b : FlatBuffer} {val : Nat} {tail : Bytes}
    (hb : b.Valid) (h : b.unread = bigEndian 8 val ++ tail) (hval : val < 2 ^ 64) :
    FlatBuffer.peekUint64 b = .ok val b := by
  have hle : 8 <= b.unreadLength := hb.length_le h
  rcases FlatBuffer.exists_data_eq h with ⟨more, hdata⟩
  have hfirst : loadBe32 b.data = (val >>> 32) % 2 ^ 32 := by
    rw [hdata, bigEndian_eight, List.append_assoc, loadBe32_bigEndian]
  have hsecond : loadBe32 (b.data.drop 4) = val % 2 ^ 32 := by
    rw [hdata, bigEndian_eight, List.append_assoc,
      List.drop_left' (bigEndian_length 4 _), loadBe32_bigEndian]
  rw [FlatBuffer.peekUint64_of_le hle, hfirst, hsecond,
    ← Nat.shiftLeft_add_eq_or_of_lt (Nat.mod_lt _ (Nat.two_pow_pos 32)),
    Nat.shiftLeft_eq, Nat.shiftRight_eq_div_pow]
  congr 1
  omega

theorem yields_uint64 {val : Nat} (h : val < 2 ^ 64) :
    Yields FlatBuffer.readUint64 (bigEndian 8 val) val :=
  yields_of_peek fun _ _ hb hunread => peekUint64_eq hb hunread h

theorem yields_string (s : Bytes) : Yields (FlatBuffer.readString s.length) s s := by
  intro b tail hb h
  have hle := hb.length_le h
  rcases FlatBuffer.exists_data_eq h with ⟨more, hdata⟩
  unfold FlatBuffer.readString
  rw [if_neg (Nat.not_lt.mpr hle), hdata, List.take_left]
  have hread := (yields_consume s).bind (f := fun _ => pure s) (yields_pure s)
  rw [List.append_nil] at hread
  exact hread b tail hb h

theorem yields_key {key : Bytes} (h : key.length < 2 ^ 16) :
    Yields loadKey (Amf0.text key) key :=
  (yields_uint16 h).bind (yields_string key)

theorem yields_loadString {s : Bytes} (h : s.length < 2 ^ 16) :
    Yields loadString (Amf0.encode (.string s)) s := by
  have hbytes : Amf0.encode (.string s) = [0x02] ++ Amf0.text s := by
    simp [Amf0.encode, Amf0.marker, Amf0.body]
  rw [hbytes]
  exact (yields_expect "Expected a string" rfl).bind (yields_key h)

theorem yields_loadDouble {bits : Nat} (h : bits < 2 ^ 64) :
    Yields loadDouble (Amf0.encode (.number bits)) bits := by
  have hbytes : Amf0.encode (.number bits) = [0x00] ++ bigEndian 8 bits := by
    simp [Amf0.encode, Amf0.marker, Amf0.body]
  rw [hbytes]
  exact (yields_expect "Expected a number" rfl).bind (yields_uint64 h)

theorem yields_loadBool (flag : UInt8) :
    Yields loadBool (Amf0.encode (.boolean flag)) (decide (flag ≠ 0)) := by
  have hbytes : Amf0.encode (.boolean flag) = [0x01] ++ ([flag] ++ []) := by
    simp [Amf0.encode, Amf0.marker, Amf0.body]
  have hflag : decide (flag.toNat ≠ 0) = decide (flag ≠ 0) := by
    simp [← UInt8.toNat_inj]
  rw [hbytes, ← hflag]
  exact (yields_expect "Expected a bool" rfl).bind
    ((yields_popFront flag).bind (yields_pure _))

/-!
## One value
-/

theorem peekFront_encode {value : Amf0} {b : FlatBuffer} {tail : Bytes}
    (hb : b.Valid) (h : b.unread = value.encode ++ tail) :
    peekFront b = .ok value.marker.toNat b :=
  peekFront_eq hb h

/-- A number, a boolean or a string is read. -/
theorem yields_metaValue {value : Amf0} (last : Any) (hwf : value.WellFormed)
    (hkept : (metaValue value).isSome) :
    Yields (loadMetaValue last) value.encode (metaValue value) := by
  intro b tail hb h
  unfold loadMetaValue
  rw [bind_of_ok (peekFront_encode hb h)]
  cases value with
  | number bits =>
      have hread := (yields_loadDouble hwf).bind
        (f := fun bits => pure (some (MetaValue.double bits))) (yields_pure _)
      rw [List.append_nil] at hread
      exact hread b tail hb h
  | boolean flag =>
      have hread := (yields_loadBool flag).bind
        (f := fun flag => pure (some (MetaValue.bool flag))) (yields_pure _)
      rw [List.append_nil] at hread
      exact hread b tail hb h
  | string s =>
      have hread := (yields_loadString hwf).bind
        (f := fun s => pure (some (MetaValue.string s))) (yields_pure _)
      rw [List.append_nil] at hread
      exact hread b tail hb h
  | _ => cases hkept

/-- A value of another type stays where it is. -/
theorem loadMetaValue_other {value : Amf0} {b : FlatBuffer} {tail : Bytes}
    (last : Any) (hother : metaValue value = none) (hb : b.Valid)
    (h : b.unread = value.encode ++ tail) :
    loadMetaValue last b = .ok last b := by
  unfold loadMetaValue
  rw [bind_of_ok (peekFront_encode hb h)]
  cases value with
  | number bits => cases hother
  | boolean flag => cases hother
  | string s => cases hother
  | _ => rfl

/-!
## The loop
-/

/-- What is stored for an entry whose value is kept. -/
def stored (entry : Bytes × Amf0) : Bytes × Any := (entry.1, metaValue entry.2)

def Kept (entry : Bytes × Amf0) : Prop := (metaValue entry.2).isSome

instance (entry : Bytes × Amf0) : Decidable (Kept entry) :=
  inferInstanceAs (Decidable (_ = true))

/-- The value that the variable holds behind the entries. -/
def lastValue (last : Any) (entries : List (Bytes × Amf0)) : Any :=
  entries.foldl (fun _ entry => metaValue entry.2) last

section Loop

variable {kept : Type} {loadValue : kept -> Load kept}

theorem loadEntries_key {key : Bytes} {b t : FlatBuffer} {last : kept}
    {acc : List (Bytes × kept)} {fuel : Nat} (hkey : loadKey b = .ok key t)
    (hne : key ≠ []) :
    loadEntries loadValue (fuel + 1) last (b, acc) =
      (do
        let next <- onFst (loadValue last)
        modify fun s => (s.1, s.2 ++ [(key, next)])
        loadEntries loadValue fuel next :
          LoadEntries kept PUnit) (t, acc) := by
  have hfst : onFst loadKey (b, acc) = .ok key (t, acc) := onFst_of_ok hkey
  rw [loadEntries, bind_of_ok hfst, if_neg hne]

/-- One turn of the loop. -/
theorem loadEntries_value {key : Bytes} {b t u : FlatBuffer} {last next : kept}
    {acc : List (Bytes × kept)} {fuel : Nat} (hkey : loadKey b = .ok key t)
    (hne : key ≠ []) (hvalue : loadValue last t = .ok next u) :
    loadEntries loadValue (fuel + 1) last (b, acc) =
      loadEntries loadValue fuel next (u, acc ++ [(key, next)]) := by
  have hfst : onFst (loadValue last) (t, acc) = .ok next (u, acc) :=
    onFst_of_ok hvalue
  rw [loadEntries_key hkey hne, bind_of_ok hfst]
  rfl

theorem loadEntries_end {b t : FlatBuffer} {last : kept}
    {acc : List (Bytes × kept)} {fuel : Nat} (hkey : loadKey b = .ok [] t) :
    loadEntries loadValue (fuel + 1) last (b, acc) =
      .ok PUnit.unit (t, acc) := by
  have hfst : onFst loadKey (b, acc) = .ok [] (t, acc) := onFst_of_ok hkey
  rw [loadEntries, bind_of_ok hfst, if_pos rfl]
  rfl

/-- Entries whose values can be read are read one after the other. -/
theorem loadEntries_read {read : Amf0 -> kept}
    {entries : List (Bytes × Amf0)} {tail : Bytes}
    (hwf : Amf0.WellFormedEntries entries)
    (hread : forall entry, entry ∈ entries -> entry.2.WellFormed ->
      forall last, Yields (loadValue last) entry.2.encode (read entry.2))
    {b : FlatBuffer} (hb : b.Valid)
    (h : b.unread = Amf0.encodeEntries entries ++ tail) (last : kept)
    (acc : List (Bytes × kept)) (fuel : Nat) :
    exists b', b'.Valid ∧ b'.unread = tail ∧
      loadEntries loadValue (fuel + entries.length) last (b, acc) =
        loadEntries loadValue fuel
          (entries.foldl (fun _ entry => read entry.2) last)
          (b', acc ++ entries.map fun entry => (entry.1, read entry.2)) := by
  induction entries generalizing b last acc with
  | nil =>
      refine ⟨b, hb, by simpa [Amf0.encodeEntries] using h, ?_⟩
      simp
  | cons entry entries ih =>
      rcases entry with ⟨key, value⟩
      rcases hwf with ⟨⟨hne, hlen⟩, hvalue, hrest⟩
      rcases List.forall_mem_cons.mp hread with ⟨hfirst, hothers⟩
      have hsplit : b.unread = Amf0.text key ++ (value.encode ++
          (Amf0.encodeEntries entries ++ tail)) := by
        rw [h]
        simp [Amf0.encodeEntries, Amf0.encode]
      rcases yields_key hlen b _ hb hsplit with ⟨t, hkey, ht, htail⟩
      rcases hfirst hvalue last t _ ht htail with ⟨u, hload, hu, hutail⟩
      rcases ih hrest hothers hu hutail (read value)
        (acc ++ [(key, read value)]) with ⟨b', hb', hunread, hloop⟩
      refine ⟨b', hb', hunread, ?_⟩
      have hacc : acc ++ ((key, read value) ::
          entries.map fun entry => (entry.1, read entry.2)) =
          acc ++ [(key, read value)] ++
            entries.map fun entry => (entry.1, read entry.2) :=
        List.append_cons acc _ _
      rw [List.length_cons, ← Nat.add_assoc, loadEntries_value hkey hne hload,
        List.map_cons, hacc]
      exact hloop

/-- The whole loop, up to the marker behind the empty key. -/
theorem loadAllEntries_read {read : Amf0 -> kept}
    {entries : List (Bytes × Amf0)} {rest : Bytes}
    (hwf : Amf0.WellFormedEntries entries)
    (hread : forall entry, entry ∈ entries -> entry.2.WellFormed ->
      forall last, Yields (loadValue last) entry.2.encode (read entry.2))
    {b : FlatBuffer} (hb : b.Valid)
    (h : b.unread =
      Amf0.encodeEntries entries ++ (Amf0.objectEnd ++ rest)) (first : kept) :
    exists b', b'.Valid ∧ b'.unread = [0x09] ++ rest ∧
      loadAllEntries loadValue first (b, []) =
        .ok PUnit.unit
          (b', entries.map fun entry => (entry.1, read entry.2)) := by
  have hlen : entries.length + 1 <= b.unreadLength := by
    have hle := Amf0.length_le_encodeEntries entries
    rw [← hb.unread_length, h, List.length_append, List.length_append]
    have hend : Amf0.objectEnd.length = 3 := rfl
    omega
  rcases Nat.exists_eq_add_of_le hlen with ⟨fuel, hfuel⟩
  rcases loadEntries_read hwf hread hb h first [] (fuel + 1) with
    ⟨t, ht, hend, hloop⟩
  have hsplit : t.unread = Amf0.text [] ++ ([0x09] ++ rest) := by
    rw [hend]
    simp [Amf0.objectEnd]
  rcases yields_key (by decide) t _ ht hsplit with ⟨b', hkey, hb', hmark⟩
  refine ⟨b', hb', hmark, ?_⟩
  have hfull : loadAllEntries loadValue first (b, []) =
      loadEntries loadValue b.unreadLength first (b, []) := rfl
  rw [hfull, hfuel, show entries.length + 1 + fuel =
    fuel + 1 + entries.length by omega, hloop, loadEntries_end hkey,
    List.nil_append]

end Loop

/-- Entries that are kept are read one after the other. -/
theorem loadEntries_kept {entries : List (Bytes × Amf0)} {tail : Bytes}
    (hwf : Amf0.WellFormedEntries entries)
    (hkept : forall entry, entry ∈ entries -> Kept entry) {b : FlatBuffer}
    (hb : b.Valid) (h : b.unread = Amf0.encodeEntries entries ++ tail)
    (last : Any) (acc : Metadata) (fuel : Nat) :
    exists b', b'.Valid ∧ b'.unread = tail ∧
      loadEntries loadMetaValue (fuel + entries.length) last (b, acc) =
        loadEntries loadMetaValue fuel (lastValue last entries)
          (b', acc ++ entries.map stored) :=
  loadEntries_read hwf
    (fun entry hentry hvalue last => yields_metaValue last hvalue
      (hkept entry hentry)) hb h last acc fuel

/-- Nothing that has been stored is taken back. -/
theorem loadEntries_appends (fuel : Nat) (last : Any)
    (s : FlatBuffer × Metadata) :
    s.2 <+: (resultState (loadEntries loadMetaValue fuel last s)).2 := by
  induction fuel generalizing last s with
  | zero => exact List.prefix_refl _
  | succ fuel ih =>
      rcases s with ⟨b, acc⟩
      cases hkey : loadKey b with
      | error what t =>
          have hfst : onFst loadKey (b, acc) = .error what (t, acc) := by
            unfold onFst
            rw [hkey]
          have hloop : loadEntries loadMetaValue (fuel + 1) last (b, acc) =
              .error what (t, acc) := by
            rw [loadEntries]
            exact bind_of_error hfst
          rw [hloop]
          exact List.prefix_refl _
      | ok key t =>
          by_cases hne : key = []
          · subst hne
            rw [loadEntries_end hkey]
            exact List.prefix_refl _
          · cases hvalue : loadMetaValue last t with
            | error what u =>
                have hfst : onFst (loadMetaValue last) (t, acc) =
                    .error what (u, acc) := by
                  unfold onFst
                  rw [hvalue]
                have hloop : loadEntries loadMetaValue (fuel + 1) last (b, acc) =
                    .error what (u, acc) := by
                  rw [loadEntries_key hkey hne]
                  exact bind_of_error hfst
                rw [hloop]
                exact List.prefix_refl _
            | ok next u =>
                rw [loadEntries_value hkey hne hvalue]
                exact (List.prefix_append _ _).trans
                  (ih next (u, acc ++ [(key, next)]))

/-!
## Messages
-/

/-- `@setDataFrame`, `onMetaData` and an array of entries. -/
def metadataMessage (count : Nat) (entries : List (Bytes × Amf0)) : Bytes :=
  Amf0.encode (.string (ascii
      ['@', 's', 'e', 't', 'D', 'a', 't', 'a', 'F', 'r', 'a', 'm', 'e'])) ++
    (Amf0.encode (.string (ascii
        ['o', 'n', 'M', 'e', 't', 'a', 'D', 'a', 't', 'a'])) ++
      Amf0.encode (.ecmaArray count entries))

/-- What comes before the loop over the entries is read, and skipped. -/
theorem onProcessMetadata_eq {count : Nat} {entries : List (Bytes × Amf0)}
    {rest : Bytes} {b : FlatBuffer} (hb : b.Valid)
    (h : b.unread = metadataMessage count entries ++ rest) :
    exists b', b'.Valid ∧
      b'.unread = Amf0.encodeEntries entries ++ (Amf0.objectEnd ++ rest) ∧
      onProcessMetadata (b, []) =
        (do
          loadAllEntries loadMetaValue none
          onFst (expect amfObjectEnd "expected an object end") :
            LoadEntries Any PUnit) (b', []) := by
  have hsplit : b.unread = Amf0.encode (.string (ascii
      ['@', 's', 'e', 't', 'D', 'a', 't', 'a', 'F', 'r', 'a', 'm', 'e'])) ++
      (Amf0.encode (.string (ascii
        ['o', 'n', 'M', 'e', 't', 'a', 'D', 'a', 't', 'a'])) ++
      ((0x08 :: bigEndian 4 count) ++
        (Amf0.encodeEntries entries ++ (Amf0.objectEnd ++ rest)))) := by
    rw [h]
    simp [metadataMessage, Amf0.encode, Amf0.marker, Amf0.body]
  rcases yields_loadString (by decide) b _ hb hsplit with
    ⟨t, hframe, ht, hunread⟩
  rcases yields_loadString (by decide) t _ ht hunread with
    ⟨u, hmeta, hu, hunread'⟩
  have hskip := yields_consume (0x08 :: bigEndian 4 count)
  rw [List.length_cons, bigEndian_length] at hskip
  rcases hskip u _ hu hunread' with ⟨v, hconsume, hv, hentries⟩
  refine ⟨v, hv, hentries, ?_⟩
  unfold onProcessMetadata
  rw [bind_of_ok (onFst_of_ok (s := (b, [])) hframe), if_pos rfl,
    bind_of_ok (onFst_of_ok (s := (t, [])) hmeta), if_pos rfl,
    bind_of_ok (onFst_of_ok (s := (u, [])) hconsume)]

/-- A message whose entries are all kept is read to its end. -/
theorem onProcessMetadata_kept {count : Nat} {entries : List (Bytes × Amf0)}
    {rest : Bytes} {b : FlatBuffer} (hwf : Amf0.WellFormedEntries entries)
    (hkept : forall entry, entry ∈ entries -> Kept entry) (hb : b.Valid)
    (h : b.unread = metadataMessage count entries ++ rest) :
    exists b', onProcessMetadata (b, []) = .ok () (b', entries.map stored) ∧
      b'.unread = rest := by
  rcases onProcessMetadata_eq hb h with ⟨t, ht, hunread, heq⟩
  rcases loadAllEntries_read hwf
    (fun entry hentry hvalue last => yields_metaValue last hvalue
      (hkept entry hentry)) ht hunread none with ⟨v, hv, hmark, hall⟩
  rcases yields_expect "expected an object end" (x := 0x09) rfl v _ hv hmark
    with ⟨b', hexpect, _, hrest⟩
  refine ⟨b', ?_, hrest⟩
  rw [heq, bind_of_ok hall]
  exact onFst_of_ok hexpect

theorem lastValue_mem {entries : List (Bytes × Amf0)} (hne : entries ≠ [])
    (last : Any) :
    exists entry, entry ∈ entries ∧
      lastValue last entries = metaValue entry.2 := by
  induction entries generalizing last with
  | nil => exact absurd rfl hne
  | cons entry entries ih =>
      by_cases hrest : entries = []
      · subst hrest
        exact ⟨entry, List.mem_cons_self .., rfl⟩
      · rcases ih hrest (metaValue entry.2) with ⟨e, he, heq⟩
        exact ⟨e, List.mem_cons_of_mem _ he, heq⟩

/-- Behind entries that are kept, one that is not is stored with the value of
the last of them. -/
theorem onProcessMetadata_stale {count : Nat}
    {front back : List (Bytes × Amf0)} {key : Bytes} {value : Amf0}
    {rest : Bytes} {b b' : FlatBuffer} {entries : Metadata}
    (hwf : Amf0.WellFormedEntries (front ++ (key, value) :: back))
    (hkept : forall entry, entry ∈ front -> Kept entry)
    (hother : metaValue value = none) (hb : b.Valid)
    (h : b.unread =
      metadataMessage count (front ++ (key, value) :: back) ++ rest)
    (hread : onProcessMetadata (b, []) = .ok () (b', entries)) :
    front.map stored ++ [(key, lastValue none front)] <+: entries := by
  rcases onProcessMetadata_eq hb h with ⟨t, ht, hunread, heq⟩
  rcases Amf0.wellFormedEntries_append hwf with ⟨hfront, ⟨hne, hlen⟩, _⟩
  have hbytes : t.unread = Amf0.encodeEntries front ++ (Amf0.text key ++
      (value.encode ++ (Amf0.encodeEntries back ++
        (Amf0.objectEnd ++ rest)))) := by
    rw [hunread, Amf0.encodeEntries_append]
    simp [Amf0.encodeEntries, Amf0.encode]
  have hfuel : front.length + 1 <= t.unreadLength := by
    have hle := Amf0.length_le_encodeEntries front
    have hmarker : 0 < value.encode.length := Nat.succ_pos _
    rw [← ht.unread_length, hbytes]
    simp only [List.length_append]
    omega
  rcases Nat.exists_eq_add_of_le hfuel with ⟨fuel, hfuel⟩
  rcases loadEntries_kept hfront hkept ht hbytes none [] (fuel + 1) with
    ⟨u, hu, hkeyBytes, hloop⟩
  rcases yields_key hlen u _ hu hkeyBytes with ⟨v, hkey, hv, hvalueBytes⟩
  have hvalue := loadMetaValue_other (lastValue none front) hother hv hvalueBytes
  have hfull : loadAllEntries loadMetaValue none (t, []) =
      loadEntries loadMetaValue fuel (lastValue none front)
        (v, front.map stored ++ [(key, lastValue none front)]) := by
    have hall : loadAllEntries loadMetaValue none (t, []) =
        loadEntries loadMetaValue t.unreadLength none (t, []) := rfl
    rw [hall, hfuel, show front.length + 1 + fuel =
      fuel + 1 + front.length by omega, hloop,
      loadEntries_value hkey hne hvalue, List.nil_append]
  have happends := loadEntries_appends fuel (lastValue none front)
    (v, front.map stored ++ [(key, lastValue none front)])
  rw [heq] at hread
  rcases bind_eq_ok hread with ⟨_, s, hloaded, hexpect⟩
  rw [← hfull, hloaded] at happends
  have hsame : entries = s.2 := (onFst_ok hexpect).2
  rw [hsame]
  exact happends

/-!
## Exactness
-/

theorem lookup_foldl_emplace (entries metaData : Metadata) (key : Bytes) :
    (entries.foldl Server.emplace metaData).lookup key =
      (metaData.lookup key).or (entries.lookup key) := by
  induction entries generalizing metaData with
  | nil => simp
  | cons entry entries ih =>
      rcases entry with ⟨first, value⟩
      rw [List.foldl_cons, ih]
      unfold Server.emplace
      by_cases hsome : (metaData.lookup first).isSome
      · rw [if_pos hsome]
        by_cases hkey : key = first
        · rcases Option.isSome_iff_exists.mp hsome with ⟨old, hold⟩
          simp [hkey, hold]
        · simp [List.lookup_cons, beq_false_of_ne hkey]
      · rw [if_neg hsome, List.lookup_append, Option.or_assoc]
        congr 1
        by_cases hkey : key = first
        · simp [hkey]
        · simp [List.lookup_cons, beq_false_of_ne hkey]

theorem lookup_of_mem {metaData : Metadata} {key : Bytes} {value : Any}
    (hkeys : (metaData.map Prod.fst).Nodup) (h : (key, value) ∈ metaData) :
    metaData.lookup key = some value := by
  induction metaData with
  | nil => cases h
  | cons entry metaData ih =>
      rcases entry with ⟨first, other⟩
      rw [List.map_cons, List.nodup_cons] at hkeys
      rcases List.mem_cons.mp h with heq | hmem
      · cases heq
        simp
      · have hne : key ≠ first := by
          intro heq
          exact hkeys.1 (List.mem_map.mpr ⟨(key, value), hmem, heq⟩)
        rw [List.lookup_cons, beq_false_of_ne hne]
        exact ih hkeys.2 hmem

/-- The message is read to its end; each number, boolean and string is stored
under its key, and no key has a value that belongs to another one. -/
def ReadsExactly (entries : List (Bytes × Amf0)) (b : FlatBuffer)
    (rest : Bytes) : Prop :=
  exists b' read, onProcessMetadata (b, []) = .ok () (b', read) ∧
    b'.unread = rest ∧
    (forall entry, entry ∈ entries -> Kept entry ->
      (read.foldl Server.emplace []).lookup entry.1 =
        some (metaValue entry.2)) ∧
    forall key value entry,
      (read.foldl Server.emplace []).lookup key = some (some value) ->
        entry ∈ entries -> metaValue entry.2 = some value ->
          (key, some value) ∈ entries.map stored

theorem map_stored_keys (entries : List (Bytes × Amf0)) :
    (entries.map stored).map Prod.fst = entries.map Prod.fst := by
  rw [List.map_map]
  rfl

theorem lookup_stored_eq_none {entries : List (Bytes × Amf0)} {key : Bytes}
    (h : key ∉ entries.map Prod.fst) :
    (entries.map stored).lookup key = none := by
  rw [List.lookup_eq_none_iff]
  intro entry hentry
  rw [bne_iff_ne]
  intro heq
  apply h
  rw [heq, ← map_stored_keys]
  exact List.mem_map_of_mem hentry

theorem readsExactly_of_kept {count : Nat} {entries : List (Bytes × Amf0)}
    {rest : Bytes} {b : FlatBuffer} (hwf : Amf0.WellFormedEntries entries)
    (hkeys : (entries.map Prod.fst).Nodup)
    (hkept : forall entry, entry ∈ entries -> Kept entry) (hb : b.Valid)
    (h : b.unread = metadataMessage count entries ++ rest) :
    ReadsExactly entries b rest := by
  rcases onProcessMetadata_kept hwf hkept hb h with ⟨b', hread, hrest⟩
  have hlookup : forall key,
      ((entries.map stored).foldl Server.emplace []).lookup key =
        (entries.map stored).lookup key := by
    intro key
    rw [lookup_foldl_emplace]
    rfl
  refine ⟨b', entries.map stored, hread, hrest, ?_, ?_⟩
  · intro entry hentry _
    rw [hlookup]
    apply lookup_of_mem
    · rw [map_stored_keys]
      exact hkeys
    · exact List.mem_map_of_mem hentry
  · intro key value _ hvalue _ _
    rw [hlookup] at hvalue
    rcases List.lookup_eq_some_iff.mp hvalue with ⟨front, back, heq, _⟩
    rw [heq]
    exact List.mem_append_right _ (List.mem_cons_self ..)

/-- A value that is not kept, behind one that is, goes wrong. -/
theorem not_readsExactly_stale {count : Nat}
    {front back : List (Bytes × Amf0)} {key : Bytes} {value : Amf0}
    {rest : Bytes} {b : FlatBuffer}
    (hwf : Amf0.WellFormedEntries (front ++ (key, value) :: back))
    (hkeys : ((front ++ (key, value) :: back).map Prod.fst).Nodup)
    (hne : front ≠ []) (hkept : forall entry, entry ∈ front -> Kept entry)
    (hother : metaValue value = none) (hb : b.Valid)
    (h : b.unread =
      metadataMessage count (front ++ (key, value) :: back) ++ rest) :
    ¬ ReadsExactly (front ++ (key, value) :: back) b rest := by
  rintro ⟨b', read, hread, _, _, hothers⟩
  rcases onProcessMetadata_stale hwf hkept hother hb h hread with ⟨more, hmore⟩
  rcases lastValue_mem hne none with ⟨last, hlast, hstale⟩
  rcases Option.isSome_iff_exists.mp (hkept last hlast) with ⟨old, hold⟩
  have hfresh : key ∉ front.map Prod.fst := by
    rw [List.map_append, List.map_cons] at hkeys
    intro hmem
    exact List.disjoint_of_nodup_append hkeys hmem (List.mem_cons_self ..)
  have hlookup : (read.foldl Server.emplace []).lookup key =
      some (some old) := by
    rw [lookup_foldl_emplace, ← hmore, List.lookup_append, List.lookup_append,
      lookup_stored_eq_none hfresh, hstale, hold]
    simp
  have hown := hothers key old last hlookup (List.mem_append_left _ hlast) hold
  rw [← map_stored_keys] at hkeys
  have hsame := lookup_of_mem hkeys hown
  have hempty : (key, none) ∈ (front ++ (key, value) :: back).map stored := by
    rw [← hother]
    exact List.mem_map_of_mem (f := stored)
      (List.mem_append_right _ (List.mem_cons_self ..))
  rw [lookup_of_mem hkeys hempty] at hsame
  cases hsame

/-- Up to the first entry that is not kept. -/
theorem kept_or_split (entries : List (Bytes × Amf0)) :
    (forall entry, entry ∈ entries -> Kept entry) ∨
      exists front key value back, entries = front ++ (key, value) :: back ∧
        (forall entry, entry ∈ front -> Kept entry) ∧
        metaValue value = none := by
  induction entries with
  | nil =>
      left
      intro entry hentry
      cases hentry
  | cons entry entries ih =>
      by_cases hentry : Kept entry
      · rcases ih with hall | ⟨front, key, value, back, rfl, hfront, hother⟩
        · left
          exact List.forall_mem_cons.mpr ⟨hentry, hall⟩
        · right
          exact ⟨entry :: front, key, value, back, rfl,
            List.forall_mem_cons.mpr ⟨hentry, hfront⟩, hother⟩
      · right
        exact ⟨[], entry.1, entry.2, entries, rfl, by simp,
          Option.not_isSome_iff_eq_none.mp hentry⟩

/-- Arrays of numbers, booleans and strings are read exactly, and these are the
only ones that begin with such an entry. -/
theorem readsExactly_iff {count : Nat} {entries : List (Bytes × Amf0)}
    {rest : Bytes} {b : FlatBuffer} (hwf : Amf0.WellFormedEntries entries)
    (hkeys : (entries.map Prod.fst).Nodup) (hb : b.Valid)
    (h : b.unread = metadataMessage count entries ++ rest) :
    ((forall entry, entry ∈ entries -> Kept entry) ->
      ReadsExactly entries b rest) ∧
    ((exists first others, entries = first :: others ∧ Kept first) ->
      ReadsExactly entries b rest ->
        forall entry, entry ∈ entries -> Kept entry) := by
  constructor
  · intro hkept
    exact readsExactly_of_kept hwf hkeys hkept hb h
  · rintro ⟨first, others, hcons, hfirst⟩ hexact
    rcases kept_or_split entries with
      hall | ⟨front, key, value, back, rfl, hfront, hother⟩
    · exact hall
    · exfalso
      have hne : front ≠ [] := by
        rintro rfl
        rw [List.nil_append, List.cons.injEq] at hcons
        rw [← hcons.1] at hfirst
        exact Option.not_isSome_iff_eq_none.mpr hother hfirst
      exact not_readsExactly_stale hwf hkeys hne hfront hother hb h hexact

def rateEntry : Bytes × Amf0 := (ascii ['r', 'a', 't', 'e'], .number 500)

/-- A number, a boolean and a string. -/
def keptEntries : List (Bytes × Amf0) :=
  [rateEntry, (ascii ['s', 't', 'e', 'r', 'e', 'o'], .boolean 1),
    (ascii ['e', 'n', 'c', 'o', 'd', 'e', 'r'],
      .string (ascii ['o', 'b', 's']))]

theorem readsExactly_keptEntries :
    ReadsExactly keptEntries
      (FlatBuffer.create.write (metadataMessage 3 keptEntries)) [] := by
  have hb := FlatBuffer.create_valid FlatBuffer.kInitialSize
  have hunread : (FlatBuffer.create.write
      (metadataMessage 3 keptEntries)).unread =
      metadataMessage 3 keptEntries ++ [] := by
    rw [FlatBuffer.write_unread hb, FlatBuffer.create_unread, List.append_nil,
      List.nil_append]
  apply (readsExactly_iff _ (by decide) (FlatBuffer.write_valid hb _) hunread).1
  · decide
  · simp [Amf0.WellFormedEntries, Amf0.WellFormed, keptEntries, rateEntry, ascii]

/-- The number is followed by a null. -/
def nullEntry : Bytes × Amf0 := (ascii ['n', 'o', 't', 'e'], .null)

theorem not_readsExactly_nullEntry :
    ¬ ReadsExactly [rateEntry, nullEntry]
      (FlatBuffer.create.write (metadataMessage 2 [rateEntry, nullEntry]))
      [] := by
  have hb := FlatBuffer.create_valid FlatBuffer.kInitialSize
  have hunread : (FlatBuffer.create.write
      (metadataMessage 2 [rateEntry, nullEntry])).unread =
      metadataMessage 2 ([rateEntry] ++ (nullEntry.1, nullEntry.2) :: []) ++
        [] := by
    rw [FlatBuffer.write_unread hb, FlatBuffer.create_unread, List.append_nil,
      List.nil_append]
    rfl
  apply not_readsExactly_stale _ (by decide) (by decide) (by decide) rfl
    (FlatBuffer.write_valid hb _) hunread
  simp [Amf0.WellFormedEntries, Amf0.WellFormed, rateEntry, nullEntry, ascii]

end AmfDecoder

end Rtmp
end Streaming
