import TableFile.Proofs.Record.Format
import TableFile.Proofs.Varint.Groups

namespace TableFile

theorem Varint.lt_extent {n groups : Nat} {data : Bytes} (hn : n ≤ groups)
    (hlength : n ≤ data.length) (hmore : ∀ b ∈ data.take n, 128 ≤ b) :
    n < extent groups data := by
  induction n generalizing groups data with
  | zero => exact Nat.succ_pos _
  | succ n ih =>
    obtain ⟨groups, rfl⟩ : ∃ m, groups = m + 1 := Nat.exists_eq_add_of_le' (by omega)
    cases data with
    | nil => exact absurd hlength (Nat.not_succ_le_zero n)
    | cons b data =>
      rw [List.take_succ_cons] at hmore
      obtain ⟨hb, hmore⟩ := List.forall_mem_cons.mp hmore
      rw [extent_of_more (UInt8.not_lt.mpr hb)]
      exact Nat.succ_lt_succ (ih (Nat.le_of_succ_le_succ hn) (Nat.le_of_succ_le_succ hlength) hmore)

namespace Record

/-- The header ends within the varint at byte `start`: each byte from there up to the end of the
header promises another, and they are too few to be all of a varint. -/
structure EndsWithin (payload : Bytes) (headerSize start : Nat) : Prop where
  start_lt : start < headerSize
  short : headerSize - start < 9
  more : ∀ b ∈ payload.window start (headerSize - start), 128 ≤ b

variable {payload data : Bytes} {headerSize position start : Nat}

theorem EndsWithin.lt_stop (h : EndsWithin payload headerSize start)
    (hheader : headerSize ≤ payload.length) :
    headerSize < start + Varint.extent 8 (payload.drop start) := by
  have hstart := h.start_lt
  have hlength : headerSize - start ≤ (payload.drop start).length := by
    rw [List.length_drop]
    omega
  have hextent : headerSize - start < Varint.extent 8 (payload.drop start) :=
    Varint.lt_extent (Nat.le_of_lt_succ h.short) hlength h.more
  omega

theorem readTypes_of_error {e : Error} (h : position < headerSize)
    (hread : Varint.read data = .error e) : readTypes headerSize position data = .error e := by
  rw [readTypes, if_pos h]
  split
  · next hread' => rw [Except.error.inj (hread'.symm.trans hread)]
  · next hread' =>
    rw [hread] at hread'
    cases hread'

/-- A type whose varint ends behind the header is the last one that is read. -/
theorem readTypes_of_last {code : UInt64} {size : Nat} (h : position < headerSize)
    (hread : Varint.read data = .ok (code, size)) (hstop : headerSize ≤ position + size) :
    readTypes headerSize position data = .ok ([.ofCode code], position + size) := by
  rw [readTypes_of_read h hread, readTypes, if_neg (Nat.not_lt.mpr hstop)]
  rfl

/-- Where the header ends within a varint, the payload holds no record. The error says where the
varint ends, if it does, or else how many bytes are left for it. -/
theorem decode_endsWithin {declared : UInt64} {size : Nat} {codes : List UInt64}
    (hread : Varint.readAt payload 0 = .ok (declared, size)) (hsize : size ≤ declared.toNat)
    (hheader : declared.toNat ≤ payload.length) (hrun : Varint.Run payload size start codes)
    (hwithin : EndsWithin payload declared.toNat start) :
    let left := payload.drop start
    let stop := start + Varint.extent 8 left
    (Varint.IsWhole left → declared.toNat < stop ∧ stop ≤ payload.length ∧
      decode payload = .error (.badRecord (.headerOverrun stop declared.toNat))) ∧
    (¬Varint.IsWhole left →
      decode payload = .error (.truncated .varint (left.length + 1) left.length)) := by
  intro left stop
  have hstart := hwithin.start_lt
  have hstop : declared.toNat < stop := hwithin.lt_stop hheader
  have hdecode : decode payload = _ := decode_of_header hread hsize hheader
  constructor
  · intro hwhole
    have hinside : Varint.extent 8 left ≤ left.length := Varint.isWhole_iff.mp hwhole
    have hlength : left.length = payload.length - start := List.length_drop
    obtain ⟨code, hcode, -⟩ := Varint.exists_read_eq_ok hinside
    have htypes : readTypes declared.toNat size (payload.drop size) =
        .ok (codes.map .ofCode ++ [.ofCode code], stop) := by
      rw [readTypes_run hrun hstart.le, readTypes_of_last hstart hcode hstop.le]
      rfl
    refine ⟨hstop, by omega, ?_⟩
    rw [hdecode, htypes, Except.ok_bind]
    exact if_pos hstop.ne'
  · intro hcut
    have hmissing : left.length < Varint.extent 8 left := by
      rwa [Varint.isWhole_iff, Nat.not_le] at hcut
    have htypes : readTypes declared.toNat size (payload.drop size) =
        .error (.truncated .varint (left.length + 1) left.length) := by
      rw [readTypes_run hrun hstart.le, readTypes_of_error hstart (Varint.read_eq_error hmissing)]
      rfl
    rw [hdecode, htypes, Except.error_bind]

/-- The second of two types has two bytes left in the header, and a third one behind it. -/
theorem decode_endsWithin_threeBytes :
    Varint.readAt [0x04, 0x01, 0x81, 0x80, 0x00, 0x07] 0 = .ok (4, 1) ∧
    Varint.Run [0x04, 0x01, 0x81, 0x80, 0x00, 0x07] 1 2 [1] ∧
    EndsWithin [0x04, 0x01, 0x81, 0x80, 0x00, 0x07] 4 2 ∧
    decode [0x04, 0x01, 0x81, 0x80, 0x00, 0x07] = .error (.badRecord (.headerOverrun 5 4)) := by
  have hread : Varint.readAt [0x04, 0x01, 0x81, 0x80, 0x00, 0x07] 0 = .ok (4, 1) := rfl
  have hrun : Varint.Run [0x04, 0x01, 0x81, 0x80, 0x00, 0x07] 1 2 [1] := .cons rfl (.nil 2)
  have hwithin : EndsWithin [0x04, 0x01, 0x81, 0x80, 0x00, 0x07] 4 2 :=
    ⟨by decide, by decide, by decide +kernel⟩
  obtain ⟨hmalformed, -⟩ := decode_endsWithin hread (by decide) (by decide) hrun hwithin
  obtain ⟨-, -, hdecode⟩ := hmalformed (.inr (by decide))
  exact ⟨hread, hrun, hwithin, hdecode⟩

/-- The payload ends where its header does, and so within the varint: it is not malformed. -/
theorem decode_endsWithin_cut :
    Varint.readAt [0x02, 0x80] 0 = .ok (2, 1) ∧ Varint.Run [0x02, 0x80] 1 1 [] ∧
    EndsWithin [0x02, 0x80] 2 1 ∧ decode [0x02, 0x80] = .error (.truncated .varint 2 1) ∧
    ∀ fault, decode [0x02, 0x80] ≠ .error (.badRecord fault) := by
  have hdecode : decode [0x02, 0x80] = .error (.truncated .varint 2 1) := by decide +kernel
  refine ⟨rfl, .nil 1, ⟨by decide, by decide, by decide +kernel⟩, hdecode, fun fault ↦ ?_⟩
  rw [hdecode]
  exact fun h ↦ nomatch h

end Record

end TableFile
