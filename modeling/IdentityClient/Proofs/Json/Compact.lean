import IdentityClient.Proofs.Json.Skip

/-!
# Compact documents

Every tree has a document: the one without blanks.
-/

namespace IdentityClient.Json

/-! ### Literals of texts -/

def Piece.ofChar (c : Char) (fits : 0x20 ≤ c.toNat) : Piece :=
  if quote : c = '"' then .escaped '"' '"' rfl
  else if slash : c = '\\' then .escaped '\\' '\\' rfl
  else .plain c ⟨quote, slash, fits⟩

namespace TextLiteral

/-- The literal of a text without control characters. -/
def ofText (s : String) (fits : ∀ c ∈ s.toList, 0x20 ≤ c.toNat) : TextLiteral := s.toList.pmap Piece.ofChar fits

variable {u : Units} (quote : u.spell '"' = ['"']) (slash : u.spell '\\' = ['\\'])
include quote slash

theorem units_pmap (cs : List Char) (fits : ∀ c ∈ cs, 0x20 ≤ c.toNat) :
    units u (cs.pmap Piece.ofChar fits) = .ok cs := by
  induction cs with
  | nil => rfl
  | cons c cs ih =>
    rw [List.pmap_cons, Piece.ofChar]
    split_ifs with isQuote isSlash
    · show (units u _).map (u.spell '"' ++ ·) = _
      rw [ih, quote, isQuote]
      rfl
    · show (units u _).map (u.spell '\\' ++ ·) = _
      rw [ih, slash, isSlash]
      rfl
    · rw [units, ih]
      rfl

theorem read_ofText (s : String) (fits : ∀ c ∈ s.toList, 0x20 ≤ c.toNat) : (ofText s fits).read u = u.read s.toList := by
  simp only [read, ofText, units_pmap quote slash]

end TextLiteral

theorem TextLiteral.read_ofText_text (s : String) (fits : ∀ c ∈ s.toList, 0x20 ≤ c.toNat) :
    (ofText s fits).read .text = .ok s :=
  (read_ofText rfl rfl s fits).trans (congrArg Except.ok String.ofList_toList)

/-! ### Trees without blanks -/

mutual

def Value.chars : Value → List Char
  | .null => ['n', 'u', 'l', 'l']
  | .bool true => ['t', 'r', 'u', 'e']
  | .bool false => ['f', 'a', 'l', 's', 'e']
  | .number n => n.chars
  | .text t => '"' :: (t.chars ++ ['"'])
  | .list [] => ['[', ']']
  | .list (v :: vs) => '[' :: (v.chars ++ itemChars vs)
  | .object [] => ['\x7b', '\x7d']
  | .object ((t, v) :: ms) => '\x7b' :: '"' :: (t.chars ++ '"' :: ':' :: (v.chars ++ memberChars ms))

/-- What follows an item. -/
def itemChars : List Value → List Char
  | [] => [']']
  | v :: vs => ',' :: (v.chars ++ itemChars vs)

/-- What follows a member. -/
def memberChars : List (TextLiteral × Value) → List Char
  | [] => ['\x7d']
  | (t, v) :: ms => ',' :: '"' :: (t.chars ++ '"' :: ':' :: (v.chars ++ memberChars ms))

end

/-- A member without blanks. -/
theorem Stands.compact {v : Value} {cs rest : List Char} (t : TextLiteral) (value : Stands (.value v) cs rest) :
    Stands (.member (t, v)) ('"' :: (t.chars ++ '"' :: ':' :: cs)) rest := by
  refine .member (skipBlank_of_head rfl) (skipBlank_of_head rfl) ?_
  rwa [value.skipBlank_value]

mutual

theorem stands_chars (v : Value) (rest : List Char) : Stands (.value v) (v.chars ++ rest) rest := by
  match v with
  | .null => exact .null rest
  | .bool true => exact .yes rest
  | .bool false => exact .no rest
  | .number n => exact .number n rest
  | .text t =>
    have stands := Stands.text t rest
    simpa [Value.chars] using stands
  | .list [] => exact .list (.noItems (skipBlank_of_head rfl))
  | .list (v :: vs) =>
    have first := stands_chars v (itemChars vs ++ rest)
    rw [Value.chars, List.cons_append, List.append_assoc]
    exact .list (.items (by rwa [first.skipBlank_value]) (stands_itemChars vs rest))
  | .object [] => exact .object (.noMembers (skipBlank_of_head rfl))
  | .object ((t, v) :: ms) =>
    have first := (stands_chars v (memberChars ms ++ rest)).compact t
    have stands := Stands.object (.members first (stands_memberChars ms rest))
    simpa [Value.chars] using stands

theorem stands_itemChars (vs : List Value) (rest : List Char) : Stands (.moreItems vs) (itemChars vs ++ rest) rest := by
  match vs with
  | [] => exact .lastItem (skipBlank_of_head rfl)
  | v :: vs =>
    have first := stands_chars v (itemChars vs ++ rest)
    rw [itemChars, List.cons_append, List.append_assoc]
    exact .nextItem (skipBlank_of_head rfl) (.items (by rwa [first.skipBlank_value]) (stands_itemChars vs rest))

theorem stands_memberChars (ms : List (TextLiteral × Value)) (rest : List Char) :
    Stands (.moreMembers ms) (memberChars ms ++ rest) rest := by
  match ms with
  | [] => exact .lastMember (skipBlank_of_head rfl)
  | (t, v) :: ms =>
    have first := (stands_chars v (memberChars ms ++ rest)).compact t
    have stands := Stands.nextMember (skipBlank_of_head rfl) (.members first (stands_memberChars ms rest))
    simpa [memberChars] using stands

end

theorem document_chars (v : Value) : Document v.chars v := by
  have stands := stands_chars v []
  rw [List.append_nil] at stands
  exact ⟨[], by rwa [stands.skipBlank_value], rfl⟩

end IdentityClient.Json
