import Streaming.Codec.SpsReader

/-!
# Emulation prevention

An encoder puts a 3 behind two zeros when a byte up to 3 comes next.
`deEmulationPrevention` closes the gaps in a copy of the buffer.  It goes on
with the second of the two zeros, which it may count again.
-/

namespace Streaming
namespace Codec

open Foundation Util

/-!
## The function
-/

/-- The inner loop moves what is behind an index down by one.  The last byte
stays where it is. -/
def moveDown (buf : Bytes) (j : Nat) : Bytes :=
  buf.take j ++ buf.drop (j + 1) ++ buf.drop (buf.length - 1)

/-- The outer loop, with the turns that it has left. -/
def closeGaps : Nat -> Nat -> Bytes -> Nat -> Except SpsFault (Bytes × Nat)
  | 0, _, pu8TmpPtr, iBufSize => .ok (pu8TmpPtr, iBufSize)
  | turns + 1, i, pu8TmpPtr, iBufSize =>
      match loadAt pu8TmpPtr i 3 with
      | none => .error .outside
      | some window =>
          if (byteAt window 0 ^^^ 0x00) + (byteAt window 1 ^^^ 0x00) +
              (byteAt window 2 ^^^ 0x03) = 0 then
            closeGaps turns (i + 1) (moveDown pu8TmpPtr (i + 2)) (iBufSize - 1)
          else
            closeGaps turns (i + 1) pu8TmpPtr iBufSize

/-- The bound of the loop is the size before it. -/
def deEmulationPrevention (pu8Buf : Bytes) : Except SpsFault BitContext := do
  let (pu8TmpPtr, iBufSize) <-
    closeGaps (pu8Buf.length - 2) 0 pu8Buf pu8Buf.length
  return { pu8Buf := pu8TmpPtr, iBufSize, iTotalBit := iBufSize <<< 3 }

/-!
## What is left of a byte string
-/

/-- Without the 3 behind two zeros, the second of them comes first again. -/
def strip : Bytes -> Bytes
  | [] => []
  | 0 :: 0 :: 3 :: rest => 0 :: strip (0 :: rest)
  | byte :: rest => byte :: strip rest
termination_by bytes => bytes.length

theorem strip_nil : strip [] = [] := by
  rw [strip]

theorem strip_gap (rest : Bytes) :
    strip (0 :: 0 :: 3 :: rest) = 0 :: strip (0 :: rest) := by
  rw [strip]

theorem strip_cons {byte : UInt8} {rest : Bytes}
    (h : forall more, byte = 0 -> rest = 0 :: 3 :: more -> False) :
    strip (byte :: rest) = byte :: strip rest := by
  rw [strip]
  exact h

theorem strip_ne {byte : UInt8} (h : byte ≠ 0) (rest : Bytes) :
    strip (byte :: rest) = byte :: strip rest :=
  strip_cons fun _ hzero _ => h hzero

theorem strip_zero_ne {byte : UInt8} (h : byte ≠ 0) (rest : Bytes) :
    strip (0 :: byte :: rest) = 0 :: byte :: strip rest := by
  rw [strip_cons, strip_ne h]
  intro more _ hrest
  injection hrest with hbyte
  exact h hbyte

theorem strip_zeros_ne {byte : UInt8} (h : byte ≠ 0) (hthree : byte ≠ 3)
    (rest : Bytes) :
    strip (0 :: 0 :: byte :: rest) = 0 :: 0 :: byte :: strip rest := by
  rw [strip_cons, strip_zero_ne h]
  intro more _ hrest
  injection hrest with _ hrest
  injection hrest with hbyte
  exact hthree hbyte

theorem strip_zeros (rest : Bytes) :
    strip (0 :: 0 :: 0 :: rest) = 0 :: strip (0 :: 0 :: rest) := by
  rw [strip_cons]
  intro more _ hrest
  injection hrest with _ hrest
  injection hrest with hbyte
  exact absurd hbyte (by decide)

theorem strip_short {bytes : Bytes} (h : bytes.length < 3) :
    strip bytes = bytes := by
  rcases bytes with _ | ⟨a, _ | ⟨b, _ | ⟨c, rest⟩⟩⟩
  · exact strip_nil
  · rw [strip_cons, strip_nil]
    intro more _ hrest
    cases hrest
  · rw [strip_cons, strip_cons, strip_nil]
    all_goals
      intro more _ hrest
      simp at hrest
  · simp only [List.length_cons] at h
    omega

theorem strip_length_le (bytes : Bytes) : (strip bytes).length <= bytes.length := by
  induction bytes using strip.induct with
  | case1 => rw [strip_nil]
  | case2 rest ih =>
      rw [strip_gap]
      simp only [List.length_cons] at ih ⊢
      omega
  | case3 byte rest hgap ih =>
      rw [strip_cons fun more hzero hrest => hgap more hzero hrest]
      exact Nat.succ_le_succ ih

/-- A last byte that is there twice is not what closes a gap. -/
theorem strip_last {bytes : Bytes} {last : UInt8}
    (h : bytes.getLast? = some last) :
    strip (bytes ++ [last]) = strip bytes ++ [last] := by
  induction bytes using strip.induct with
  | case1 => cases h
  | case2 rest ih =>
      simp only [List.cons_append] at ih ⊢
      rw [strip_gap, strip_gap]
      rcases rest with _ | ⟨next, rest⟩
      · have hthree : last = 3 := by
          simpa using h.symm
        rw [hthree, strip_short (by simp), strip_short (by simp)]
        rfl
      · rw [ih (by simpa using h), List.cons_append]
  | case3 byte rest hgap ih =>
      rcases rest with _ | ⟨next, rest⟩
      · rw [strip_short (by simp), strip_short (by simp)]
      · rw [strip_cons fun more hzero hrest => hgap more hzero hrest,
          List.cons_append, strip_cons, ih (by simpa using h), List.cons_append]
        intro more hzero hrest
        rcases rest with _ | ⟨third, rest⟩
        · simp only [List.cons_append, List.nil_append, List.cons.injEq] at hrest
          rw [hrest.1, hrest.2.1] at h
          simp at h
        · simp only [List.cons_append, List.cons.injEq] at hrest
          exact hgap rest hzero (by rw [hrest.1, hrest.2.1])

/-!
## The loop
-/

theorem moveDown_gap (done : Bytes) {rest : Bytes} {last : UInt8}
    (hlast : (3 :: rest).getLast? = some last) :
    moveDown (done ++ 0 :: 0 :: 3 :: rest) (done.length + 2) =
      done ++ 0 :: 0 :: (rest ++ [last]) := by
  have hsplit : done ++ 0 :: 0 :: 3 :: rest = (done ++ [0, 0]) ++ 3 :: rest := by
    simp
  have hfront : (done ++ [0, 0]).length = done.length + 2 := by
    simp
  have hend : (done ++ [0, 0] ++ 3 :: rest).length - 1 =
      (done ++ [0, 0]).length + ((3 :: rest).length - 1) := by
    simp only [List.length_append, List.length_cons, List.length_nil]
    omega
  have hone : (3 :: rest).drop ((3 :: rest).length - 1) = [last] := by
    rcases List.getLast?_eq_some_iff.mp hlast with ⟨front, hall⟩
    rw [hall, List.length_append, List.length_singleton, Nat.add_sub_cancel,
      List.drop_left]
  have hbehind : (done ++ [0, 0] ++ 3 :: rest).drop
      ((done ++ [0, 0]).length + 1) = rest := by
    rw [← List.drop_drop, List.drop_left]
    rfl
  have hlastOne : (done ++ [0, 0] ++ 3 :: rest).drop
      ((done ++ [0, 0]).length + ((3 :: rest).length - 1)) = [last] := by
    rw [← List.drop_drop, List.drop_left, hone]
  rw [moveDown, hsplit, hend, hlastOne, ← hfront, List.take_left, hbehind]
  simp

theorem window_zero_iff (a b c : UInt8) (rest : Bytes) :
    (byteAt (a :: b :: c :: rest) 0 ^^^ 0x00) +
        (byteAt (a :: b :: c :: rest) 1 ^^^ 0x00) +
        (byteAt (a :: b :: c :: rest) 2 ^^^ 0x03) = 0 <->
      a = 0 ∧ b = 0 ∧ c = 3 := by
  simp only [byteAt_cons_zero, byteAt_cons_succ, Nat.xor_zero, Nat.add_eq_zero_iff,
    Nat.xor_eq_zero_iff, and_assoc]
  simp only [← UInt8.toNat_inj]
  rfl

/-- Behind what has been looked at, the loop leaves what `strip` does, and the
last byte as often as gaps have been closed. -/
theorem closeGaps_eq {turns : Nat} (size : Nat) (done : Bytes) {rest : Bytes}
    {last : UInt8} (hturns : rest.length = turns + 2)
    (hlast : rest.getLast? = some last) :
    closeGaps turns done.length (done ++ rest) size =
      .ok (done ++ strip rest ++
          List.replicate (rest.length - (strip rest).length) last,
        size - (rest.length - (strip rest).length)) := by
  induction turns generalizing size done rest with
  | zero =>
      rw [closeGaps, strip_short (by omega), Nat.sub_self]
      simp
  | succ turns ih =>
      rcases rest with _ | ⟨a, _ | ⟨b, _ | ⟨c, rest⟩⟩⟩
      all_goals simp only [List.length_cons, List.length_nil] at hturns
      any_goals omega
      have hload : loadAt (done ++ a :: b :: c :: rest) done.length 3 =
          some [a, b, c] := by
        rw [loadAt_eq (by simp only [List.length_append, List.length_cons]; omega),
          List.drop_left]
        rfl
      have hnext : (done ++ [a]).length = done.length + 1 := by
        simp
      rw [closeGaps, hload]
      simp only [window_zero_iff]
      split
      · rename_i hgap
        rcases hgap with ⟨rfl, rfl, rfl⟩
        have hend : (0 :: (rest ++ [last])).getLast? = some last :=
          List.getLast?_eq_some_iff.mpr ⟨0 :: rest, rfl⟩
        have hlength : (0 :: (rest ++ [last])).length = turns + 2 := by
          simp only [List.length_cons, List.length_append, List.length_nil]
          omega
        have hmoved := ih (size - 1) (done ++ [0]) hlength hend
        have hstrip : strip (0 :: (rest ++ [last])) =
            strip (0 :: rest) ++ [last] := by
          rcases rest with _ | ⟨next, rest⟩
          · rw [strip_short (by simp), strip_short (by simp)]
            rfl
          · have hsame : (0 :: next :: rest).getLast? = some last := by
              simpa using hlast
            exact strip_last hsame
        have hle := strip_length_le (0 :: rest)
        have hcount : (0 :: 0 :: 3 :: rest).length -
            (strip (0 :: 0 :: 3 :: rest)).length =
              (0 :: rest).length - (strip (0 :: rest)).length + 1 := by
          rw [strip_gap]
          simp only [List.length_cons] at hle ⊢
          omega
        have hsame : (0 :: (rest ++ [last])).length -
            (strip (0 :: (rest ++ [last]))).length =
              (0 :: rest).length - (strip (0 :: rest)).length := by
          rw [hstrip]
          simp only [List.length_cons, List.length_append] at hle ⊢
          omega
        rw [hnext, hsame, hstrip] at hmoved
        rw [moveDown_gap done (by simpa using hlast), hcount, strip_gap]
        rw [List.append_assoc] at hmoved
        refine hmoved.trans ?_
        rw [Nat.sub_sub, Nat.add_comm 1, List.replicate_succ]
        simp
      · rename_i hgap
        have hlength : (b :: c :: rest).length = turns + 2 := by
          simp only [List.length_cons]
          omega
        have hend : (b :: c :: rest).getLast? = some last := by
          simpa using hlast
        have hmoved := ih size (done ++ [a]) hlength hend
        have hstrip : strip (a :: b :: c :: rest) = a :: strip (b :: c :: rest) := by
          apply strip_cons
          intro more hzero hrest
          simp only [List.cons.injEq] at hrest
          exact hgap ⟨hzero, hrest.1, hrest.2.1⟩
        rw [hnext, List.append_assoc] at hmoved
        refine hmoved.trans ?_
        rw [hstrip, List.length_cons (a := a), List.length_cons (a := a),
          Nat.succ_sub_succ]
        simp

/-- The parser reads what `strip` leaves. -/
theorem deEmulationPrevention_eq (pu8Buf : Bytes) :
    exists stale, deEmulationPrevention pu8Buf = .ok
      { pu8Buf := strip pu8Buf ++ stale
        iBufSize := (strip pu8Buf).length
        iTotalBit := 8 * (strip pu8Buf).length } := by
  have hle := strip_length_le pu8Buf
  have hrun : exists stale, closeGaps (pu8Buf.length - 2) 0 pu8Buf pu8Buf.length =
      .ok (strip pu8Buf ++ stale, (strip pu8Buf).length) := by
    rcases Nat.lt_or_ge pu8Buf.length 2 with hshort | hlong
    · refine ⟨[], ?_⟩
      rw [strip_short (by omega), Nat.sub_eq_zero_of_le (Nat.le_of_lt hshort),
        List.append_nil]
      rfl
    · have hne : pu8Buf ≠ [] := by
        intro hnil
        rw [hnil] at hlong
        exact absurd hlong (by decide)
      have hloop := closeGaps_eq pu8Buf.length []
        (Nat.sub_add_cancel hlong).symm (List.getLast?_eq_some_getLast hne)
      rw [Nat.sub_sub_self hle] at hloop
      exact ⟨_, hloop⟩
  rcases hrun with ⟨stale, hrun⟩
  refine ⟨stale, ?_⟩
  unfold deEmulationPrevention
  rw [hrun]
  change Except.ok _ = _
  rw [Nat.shiftLeft_eq, Nat.mul_comm]

/-!
## What an encoder has written

The zeros that the encoder counts and those that the loop still has in front of
it differ in a long run of zeros.
-/

/-- The number counts the zeros that have been written since the last 3 that
was put in. -/
def escape : Nat -> Bytes -> Bytes
  | _, [] => []
  | zeros, byte :: bytes =>
      if zeros = 2 ∧ byte <= 3 then
        3 :: byte :: escape (if byte = 0 then 1 else 0) bytes
      else
        byte :: escape (if byte = 0 then zeros + 1 else 0) bytes

/-- An odd number of zeros, and not just one, stands in front of a 3.  The
number counts the zeros that have been seen. -/
def oddRun : Nat -> Bytes -> Bool
  | _, [] => false
  | zeros, byte :: bytes =>
      if byte = 0 then oddRun (zeros + 1) bytes
      else byte = 3 && zeros >= 3 && zeros % 2 = 1 || oddRun 0 bytes

theorem escape_zero {zeros : Nat} (h : zeros < 2) (bytes : Bytes) :
    escape zeros (0 :: bytes) = 0 :: escape (zeros + 1) bytes := by
  rw [escape, if_neg (by omega), if_pos rfl]

theorem escape_zero_two (bytes : Bytes) :
    escape 2 (0 :: bytes) = 3 :: 0 :: escape 1 bytes := by
  rw [escape, if_pos (by decide), if_pos rfl]

theorem escape_ne {zeros : Nat} (h : zeros < 2) {byte : UInt8} (hbyte : byte ≠ 0)
    (bytes : Bytes) : escape zeros (byte :: bytes) = byte :: escape 0 bytes := by
  rw [escape, if_neg (by omega), if_neg hbyte]

/-- The next zero joins the zeros in front of it, of which two are kept in
sight. -/
theorem strip_escape_zero {pending zeros : Nat} (hpending : pending < 2)
    (hzeros : zeros <= pending) (bytes : Bytes) :
    strip (List.replicate pending 0 ++ escape zeros (0 :: bytes)) =
      strip (List.replicate (pending + 1) 0 ++ escape (zeros + 1) bytes) := by
  rw [escape_zero (by omega), List.replicate_add, List.append_assoc]
  rfl

theorem strip_escape_third {zeros : Nat} (hzeros : zeros <= 2) (bytes : Bytes) :
    strip (0 :: 0 :: escape zeros (0 :: bytes)) =
      0 :: strip (0 :: 0 :: escape (if zeros = 2 then 1 else zeros + 1) bytes) := by
  split
  · rename_i htwo
    rw [htwo, escape_zero_two, strip_gap]
  · rename_i hfew
    rw [escape_zero (by omega), strip_zeros]

/-- The byte behind the zeros is read back. -/
theorem strip_escape_ne {pending zeros : Nat} {byte : UInt8} (hbyte : byte ≠ 0)
    (hpending : pending <= 2) (hzeros : zeros <= pending)
    (hgap : pending = 2 -> byte = 3 -> zeros = 2) (bytes : Bytes) :
    strip (List.replicate pending 0 ++ escape zeros (byte :: bytes)) =
      List.replicate pending 0 ++ byte :: strip (escape 0 bytes) := by
  rcases pending with _ | _ | _ | pending
  · rw [escape_ne (by omega) hbyte]
    exact strip_ne hbyte _
  · rw [escape_ne (by omega) hbyte]
    exact strip_zero_ne hbyte _
  · change strip (0 :: 0 :: escape zeros (byte :: bytes)) =
      0 :: 0 :: byte :: strip (escape 0 bytes)
    rw [escape, if_neg hbyte, if_neg hbyte]
    split
    · rw [strip_gap, strip_zero_ne hbyte]
    · rename_i hlarge
      apply strip_zeros_ne hbyte
      intro hthree
      exact hlarge ⟨hgap rfl hthree, by rw [hthree]; exact UInt8.le_refl 3⟩
  · omega

/-- The byte is a 3, and is taken for one that has been put in. -/
theorem strip_escape_three {zeros : Nat} (hzeros : zeros < 2) (bytes : Bytes) :
    strip (0 :: 0 :: escape zeros (3 :: bytes)) =
      0 :: strip (0 :: escape 0 bytes) := by
  rw [escape_ne hzeros (by decide), strip_gap]

theorem strip_escape_length (bytes : Bytes) {pending zeros : Nat}
    (hpending : pending <= 2) (hzeros : zeros <= pending) :
    (strip (List.replicate pending 0 ++ escape zeros bytes)).length <=
      pending + bytes.length := by
  induction bytes generalizing pending zeros with
  | nil =>
      have hle := strip_length_le (List.replicate pending 0 ++ escape zeros [])
      simpa [escape] using hle
  | cons byte bytes ih =>
      rw [List.length_cons]
      by_cases hbyte : byte = 0
      · rw [hbyte]
        rcases Nat.lt_or_eq_of_le hpending with hfew | rfl
        · have hrest := ih (show pending + 1 <= 2 from hfew)
            (show zeros + 1 <= pending + 1 by omega)
          rw [strip_escape_zero hfew hzeros]
          omega
        · have hrest := ih (Nat.le_refl 2)
            (show (if zeros = 2 then 1 else zeros + 1) <= 2 by split <;> omega)
          have hthird := strip_escape_third hzeros bytes
          change (strip (0 :: 0 :: escape zeros (0 :: bytes))).length <= _
          rw [hthird, List.length_cons]
          change (strip (0 :: 0 :: escape _ bytes)).length <= _ at hrest
          omega
      · by_cases hgap : pending = 2 -> byte = 3 -> zeros = 2
        · have hrest := ih (Nat.zero_le 2) (Nat.le_refl 0)
          rw [List.replicate_zero, List.nil_append] at hrest
          rw [strip_escape_ne hbyte hpending hzeros hgap, List.length_append,
            List.length_replicate, List.length_cons]
          omega
        · have hcase : pending = 2 ∧ byte = 3 ∧ zeros ≠ 2 := by
            simpa using hgap
          rcases hcase with ⟨rfl, rfl, hfew⟩
          have hrest := ih (show 1 <= 2 by decide) (Nat.zero_le 1)
          change (strip (0 :: escape 0 bytes)).length <= _ at hrest
          change (strip (0 :: 0 :: escape zeros (3 :: bytes))).length <= _
          rw [strip_escape_three (by omega), List.length_cons]
          omega

/-- What the encoder has counted after a number of zeros. -/
def writtenZeros (zeros : Nat) : Nat :=
  if zeros = 0 then 0 else 2 - zeros % 2

theorem writtenZeros_le (zeros : Nat) : writtenZeros zeros <= min zeros 2 := by
  unfold writtenZeros
  split <;> omega

theorem strip_escape_run (bytes : Bytes) (zeros : Nat) :
    strip (List.replicate (min zeros 2) 0 ++ escape (writtenZeros zeros) bytes) =
        List.replicate (min zeros 2) 0 ++ bytes <->
      oddRun zeros bytes = false := by
  induction bytes generalizing zeros with
  | nil =>
      have hshort : (List.replicate (min zeros 2) (0 : UInt8) ++ []).length < 3 := by
        rw [List.append_nil, List.length_replicate]
        omega
      rw [escape, strip_short hshort]
      simp [oddRun]
  | cons byte bytes ih =>
      have hwritten := writtenZeros_le zeros
      by_cases hbyte : byte = 0
      · rw [hbyte, oddRun, if_pos rfl, ← ih (zeros + 1)]
        rcases Nat.lt_or_ge zeros 2 with hfew | hmany
        · have hnext : writtenZeros (zeros + 1) = writtenZeros zeros + 1 := by
            unfold writtenZeros
            split <;> split <;> omega
          rw [strip_escape_zero (by omega) hwritten, hnext,
            Nat.min_eq_left (Nat.le_of_lt hfew),
            Nat.min_eq_left (Nat.succ_le_of_lt hfew), List.replicate_add,
            List.append_assoc, List.append_assoc]
          rfl
        · have hnext : (if writtenZeros zeros = 2 then 1
              else writtenZeros zeros + 1) = writtenZeros (zeros + 1) := by
            unfold writtenZeros
            split <;> split <;> split <;> omega
          have hthird := strip_escape_third
            (Nat.le_trans hwritten (Nat.min_le_right zeros 2)) bytes
          rw [hnext] at hthird
          rw [Nat.min_eq_right hmany, Nat.min_eq_right (Nat.le_succ_of_le hmany)]
          change strip (0 :: 0 :: escape (writtenZeros zeros) (0 :: bytes)) =
              0 :: 0 :: 0 :: bytes <->
            strip (0 :: 0 :: escape (writtenZeros (zeros + 1)) bytes) =
              0 :: 0 :: bytes
          rw [hthird, List.cons.injEq, eq_self, true_and]
      · rw [oddRun, if_neg hbyte]
        by_cases hodd : byte = 3 ∧ zeros >= 3 ∧ zeros % 2 = 1
        · rcases hodd with ⟨rfl, hthree, hodd⟩
          have hone : writtenZeros zeros = 1 := by
            unfold writtenZeros
            split <;> omega
          have hlength := strip_escape_length bytes (show 1 <= 2 by decide)
            (Nat.zero_le 1)
          rw [Nat.min_eq_right (Nat.le_of_succ_le hthree), hone]
          simp only [hthree, hodd, decide_true, Bool.and_true, Bool.true_or,
            Bool.true_eq_false, iff_false]
          intro hsame
          change strip (0 :: 0 :: escape 1 (3 :: bytes)) =
            0 :: 0 :: 3 :: bytes at hsame
          change (strip (0 :: escape 0 bytes)).length <= _ at hlength
          rw [strip_escape_three (by decide)] at hsame
          have hcount := congrArg List.length hsame
          simp only [List.length_cons] at hcount
          omega
        · have hrest := ih 0
          have hgap : min zeros 2 = 2 -> byte = 3 -> writtenZeros zeros = 2 := by
            intro hmany hthree
            have heven : ¬ (zeros >= 3 ∧ zeros % 2 = 1) :=
              fun h => hodd ⟨hthree, h⟩
            unfold writtenZeros
            split <;> omega
          have hnone : (byte = 3 && decide (zeros >= 3) &&
              decide (zeros % 2 = 1)) = false := by
            simpa [and_assoc] using hodd
          rw [hnone, Bool.false_or, ← hrest,
            strip_escape_ne hbyte (Nat.min_le_right zeros 2) hwritten hgap]
          change List.replicate (min zeros 2) 0 ++ byte :: strip (escape 0 bytes) =
            List.replicate (min zeros 2) 0 ++ byte :: bytes <->
              strip (escape 0 bytes) = bytes
          rw [List.append_cancel_left_eq, List.cons.injEq, eq_self, true_and]

/-!
## The context that the parser reads
-/

/-- What an encoder has written is read back unless there is an odd run of zeros
in it. -/
theorem deEmulationPrevention_exact_iff (bytes : Bytes) :
    (exists h, deEmulationPrevention (escape 0 bytes) = .ok h ∧
        h.pu8Buf.take h.iBufSize = bytes) <->
      oddRun 0 bytes = false := by
  have hrun := strip_escape_run bytes 0
  rw [← hrun]
  rcases deEmulationPrevention_eq (escape 0 bytes) with ⟨stale, hresult⟩
  constructor
  · rintro ⟨h, hok, htake⟩
    rw [hresult] at hok
    cases hok
    rwa [List.take_left] at htake
  · intro hstrip
    refine ⟨_, hresult, ?_⟩
    simp only [List.take_left]
    exact hstrip

end Codec
end Streaming
