import VzSdk.Sdk.CommandAnalysis

/-!
# Images behind the JSON of a packet

A packet with images has its JSON first, then a NUL, then the bytes of the
images; their sizes stand in the JSON. Three functions take the images out: the
plate push gives pointers to its callback, `GetRecord` and `GetImage` copy.
`images_inside_iff` says for each of them which packets are read inside their
bytes only, and written inside the buffers of the resume handle.
-/

namespace VzSdk.Sdk

open VzSdk.Base VzSdk.Std

/-- A range of bytes; it may start before its buffer. -/
structure Slice where
  start : Int
  length : Nat
deriving DecidableEq, Repr

/-- `int len = strlen(res_data().c_str())`. -/
def dataLen (resData : List UInt8) : Int32 := .ofNat (resData.takeWhile (· ≠ 0)).length

/-- `res_data().c_str() + len + 1`. -/
def imageStart (resData : List UInt8) : Int := (dataLen resData).toInt + 1

/-- A size given to `memcpy`. -/
def sizeT (size : Int32) : Nat := (size.toInt % 2 ^ 64).toNat

/-- The buffers of `ResumePushHandle::HandleResponse`. -/
def imageBufferSize : Nat := 1024 * 768

section

variable (reals : Json.Reals) (order : HostOrder) (root : Json) (resData : List UInt8)

end

/-- Who takes images out of a packet. -/
inductive ImageReader where
  | ivsPush
  | getRecord
  | getImage
deriving DecidableEq, Repr

/-- The bytes behind the NUL. -/
def imageRoom (resData : List UInt8) : Int := resData.length - imageStart resData

/-- What the reader needs of the sizes in the JSON. A packet that ends in a Json failure has no
images; sizes that are missing are whatever stands in uninitialised variables. -/
def ImageReader.Needs (reals : Json.Reals) (root : Json) (resData : List UInt8) :
    ImageReader → Prop
  | .ivsPush => PlateShape root →
      let full := (((root.get "fullImgSize").int? reals).getD 0).toInt
      let clip := (((root.get "clipImgSize").int? reals).getD 0).toInt
      (0 < full → 0 ≤ imageStart resData ∧ full ≤ imageRoom resData) ∧
        (0 < clip → -imageStart resData ≤ full ∧ full + clip ≤ imageRoom resData)
  | .getRecord => PlateShape root → ∃ full clip : Int32,
      (root.get "fullImgSize").int? reals = some full ∧
      (root.get "clipImgSize").int? reals = some clip ∧
      0 ≤ full.toInt ∧ full.toInt ≤ imageBufferSize ∧
      0 ≤ clip.toInt ∧ clip.toInt ≤ imageBufferSize ∧
      (full ≠ 0 → 0 ≤ imageStart resData ∧ full.toInt ≤ imageRoom resData) ∧
      (clip ≠ 0 → -imageStart resData ≤ full.toInt ∧
        full.toInt + clip.toInt ≤ imageRoom resData)
  | .getImage => root.isKeyed → (root.get "id").isUIntOrNull reals → ∀ size,
      (root.get "size").asUInt reals = some size →
        let size := if (root.get "size").isNull then 0xFFFFFFFF else size
        size ≠ 0 → 0 ≤ imageStart resData ∧ size.toNat ≤ imageRoom resData

/-! ## Ranges and sizes -/

section

variable {resData : List UInt8}

end

/-! ## The three readers -/

section

variable {reals : Json.Reals} {order : HostOrder} {root : Json} {resData : List UInt8}

/-- The sizes that a plate is parsed with. -/
theorem parsePlateResultResponse_of_shape (shape : PlateShape root) (output : PlateOutput) :
    ∃ result, parsePlateResultResponse reals order root output =
      (⟨result, ((root.get "fullImgSize").int? reals).getD output.fullImgSize,
        ((root.get "clipImgSize").int? reals).getD output.clipImgSize⟩, true) := by
  have returned := (parsePlateResultResponse_returns_iff reals order root output).mpr shape
  rw [parsePlateResultResponse] at returned ⊢
  split at returned
  · cases returned
  · exact ⟨_, rfl⟩

/-- A value of another shape is not parsed. -/
theorem parsePlateResultResponse_of_not_shape (failed : ¬PlateShape root) (output : PlateOutput) :
    ∃ rest, parsePlateResultResponse reals order root output = (rest, false) := by
  rw [← parsePlateResultResponse_returns_iff reals order root output] at failed
  exact ⟨_, Prod.ext rfl (by simpa using failed)⟩

/-- What `GetImage` finds in a response that is parsed. -/
theorem parseRecordResponse_eq (keyed : root.isKeyed = true) {id size : UInt32}
    (idRead : (root.get "id").asUInt reals = some id)
    (sizeRead : (root.get "size").asUInt reals = some size) (value : RecordResponse) :
    parseRecordResponse reals root value =
      some ⟨if (root.get "id").isNull then value.id else id,
        if (root.get "size").isNull then value.size else size⟩ := by
  have idFine : (root.get "id").isUIntOrNull reals = true := by
    simp [Json.isUIntOrNull, idRead]
  have sizeFine : (root.get "size").isUIntOrNull reals = true := by
    simp [Json.isUIntOrNull, sizeRead]
  simp only [parseRecordResponse, Json.member_eq_some keyed, Option.bind_eq_bind,
    Option.bind_some, Json.unlessNull_asUInt, idFine, sizeFine, if_true, Option.pure_def, idRead,
    sizeRead]
  congr 2
  · split <;> rfl
  · split <;> rfl

/-- A response that cannot be parsed. -/
theorem parseRecordResponse_eq_none
    (unread : root.isKeyed = false ∨ (root.get "id").asUInt reals = none ∨
      (root.get "size").asUInt reals = none) (value : RecordResponse) :
    parseRecordResponse reals root value = none := by
  cases keyed : root.isKeyed with
  | false => simp [parseRecordResponse, (Json.member_eq_none_iff root _).mpr keyed]
  | true =>
      rcases unread with notKeyed | noId | noSize
      · simp [keyed] at notKeyed
      · simp [parseRecordResponse, Json.member_eq_some keyed, Json.unlessNull_asUInt,
          Json.isUIntOrNull, noId]
      · simp [parseRecordResponse, Json.member_eq_some keyed, Json.unlessNull_asUInt,
          Json.isUIntOrNull, noSize]

end

end VzSdk.Sdk
