namespace TableFile.Text

def closingMark? (c : Char) : Option Char :=
  if c = '"' ∨ c = '\x60' then some c
  else if c = '[' then some ']'
  else none

def startsQuoted (s : List Char) : Bool :=
  s.head?.any fun c ↦ (closingMark? c).isSome

def quotedName? : List Char → Option (List Char × List Char)
  | [] => none
  | c :: s =>
    (closingMark? c).bind fun mark ↦
      match s.dropWhile (· ≠ mark) with
      | [] => none
      | _ :: rest => some (s.takeWhile (· ≠ mark), rest)

/-- A name without its pair of marks. One that lacks the closing mark at its end stays whole. -/
def unquote (s : List Char) : List Char :=
  match s with
  | [] => []
  | c :: inner =>
    match closingMark? c with
    | some mark => if inner.getLast? = some mark then inner.dropLast else s
    | none => s

theorem eq_of_closingMark? {c mark : Char} (h : closingMark? c = some mark) :
    c = '"' ∧ mark = '"' ∨ c = '\x60' ∧ mark = '\x60' ∨ c = '[' ∧ mark = ']' := by
  unfold closingMark? at h
  grind

theorem unquote_eq_self {s : List Char} (h : startsQuoted s = false) : unquote s = s := by
  cases s with
  | nil => rfl
  | cons c inner =>
    have hmark : closingMark? c = none := by simpa [startsQuoted] using h
    rw [unquote, hmark]

def inQuotes (name : List Char) : List Char :=
  '"' :: (name ++ ['"'])

/-- What a text names: what its pair of marks encloses, or all of it where no pair does. -/
inductive Unquotes : (text name : List Char) → Prop
  | quoted {c mark : Char} {name : List Char} (hmark : closingMark? c = some mark) :
      Unquotes (c :: (name ++ [mark])) name
  | bare {text : List Char}
      (h : ∀ c mark name, closingMark? c = some mark → text ≠ c :: (name ++ [mark])) :
      Unquotes text text

theorem unquote_eq_iff {text name : List Char} : unquote text = name ↔ Unquotes text name := by
  constructor
  · rintro rfl
    cases text with
    | nil => exact .bare fun c mark name _ h ↦ by cases h
    | cons c inner =>
      rw [unquote]
      cases hmark : closingMark? c with
      | none =>
        refine .bare fun d mark name hd h ↦ ?_
        obtain ⟨rfl, -⟩ := List.cons.inj h
        rw [hmark] at hd
        cases hd
      | some mark =>
        simp only []
        split
        · next hlast =>
          obtain ⟨name, rfl⟩ := List.getLast?_eq_some_iff.mp hlast
          rw [List.dropLast_concat]
          exact .quoted hmark
        · next hlast =>
          refine .bare fun d mark' name hd h ↦ hlast ?_
          obtain ⟨rfl, rfl⟩ := List.cons.inj h
          rw [List.getLast?_concat, ← hmark, hd]
  · intro h
    cases h with
    | quoted hmark => simp [unquote, hmark]
    | bare h =>
      cases text with
      | nil => rfl
      | cons c inner =>
        rw [unquote]
        cases hmark : closingMark? c with
        | none => rfl
        | some mark =>
          simp only []
          split
          · next hlast =>
            obtain ⟨name, rfl⟩ := List.getLast?_eq_some_iff.mp hlast
            exact absurd rfl (h c mark name hmark)
          · rfl

theorem unquote_inQuotes (name : List Char) : unquote (inQuotes name) = name :=
  unquote_eq_iff.mpr (.quoted rfl)

end TableFile.Text
