import TableFile.Error

namespace TableFile.Page

inductive Kind where
  | indexInterior
  | tableInterior
  | indexLeaf
  | tableLeaf
deriving DecidableEq

namespace Kind

def tag : Kind → UInt8
  | indexInterior => 0x02
  | tableInterior => 0x05
  | indexLeaf => 0x0A
  | tableLeaf => 0x0D

def ofTag (tag : UInt8) : Except Error Kind :=
  if tag = 0x02 then .ok indexInterior
  else if tag = 0x05 then .ok tableInterior
  else if tag = 0x0A then .ok indexLeaf
  else if tag = 0x0D then .ok tableLeaf
  else .error (.unrecognizedPageKind tag)

def isInterior : Kind → Bool
  | indexInterior | tableInterior => true
  | indexLeaf | tableLeaf => false

def headerSize (kind : Kind) : Nat :=
  if kind.isInterior then 12 else 8

theorem ofTag_tag (kind : Kind) : ofTag kind.tag = .ok kind := by
  cases kind <;> rfl

theorem ofTag_eq_ok_iff {tag : UInt8} {kind : Kind} : ofTag tag = .ok kind ↔ tag = kind.tag := by
  constructor
  · intro h
    unfold ofTag at h
    split at h
    · cases h; assumption
    split at h
    · cases h; assumption
    split at h
    · cases h; assumption
    split at h
    · cases h; assumption
    · cases h
  · rintro rfl
    exact ofTag_tag kind

end Kind

end TableFile.Page
