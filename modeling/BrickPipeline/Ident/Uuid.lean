import BrickPipeline.Json.Reader

/-!
Universally unique identifiers: 32 hexadecimal digits, written with hyphens in lower case.
-/
namespace BrickPipeline

/-- An identifier of 128 bits, as its hexadecimal digits. -/
structure Uuid where
  digits : List (Fin 16)
  length_eq : digits.length = 32
deriving DecidableEq

namespace Uuid

def nil : Uuid := ⟨List.replicate 32 0, by simp⟩

instance : Inhabited Uuid := ⟨nil⟩

def digit? (c : Char) : Option (Fin 16) := do
  let n ← Json.Reader.hexValue? c
  if h : n < 16 then some ⟨n, h⟩ else none

def ofDigits? (cs : List Char) : Option Uuid := do
  let digits ← cs.mapM digit?
  if h : digits.length = 32 then some ⟨digits, h⟩ else none

/-- The digits of a text with hyphens behind the places 8, 12, 16 and 20. -/
def unhyphenate? (cs : List Char) : Option (List Char) :=
  let groups := Text.splitOn '-' cs
  if groups.map List.length = [8, 4, 4, 4, 12] then some groups.flatten else none

/-- What stands before an identifier in a resource name, in letters of either case. -/
def scheme : List Char := ['u', 'r', 'n', ':', 'u', 'u', 'i', 'd', ':']

/-- The text without braces around it or a scheme before it. -/
def unwrap (cs : List Char) : List Char :=
  match cs with
  | '{' :: rest => if rest.getLast? = some '}' then rest.dropLast else cs
  | _ =>
    if (cs.take scheme.length).map Char.toLower = scheme then cs.drop scheme.length else cs

/-- Read an identifier: plain digits, or hyphenated, perhaps in braces or behind the scheme. -/
def parse? (text : String) : Option Uuid :=
  let cs := text.toList
  if cs.length = 32 then ofDigits? cs
  else do ofDigits? (← unhyphenate? (unwrap cs))

def text (id : Uuid) : String :=
  let cs := id.digits.map fun (d : Fin 16) => Nat.digitChar d.val
  String.ofList <|
    cs.take 8 ++ '-' :: (cs.drop 8).take 4 ++ '-' :: (cs.drop 12).take 4 ++
      '-' :: (cs.drop 16).take 4 ++ '-' :: cs.drop 20

private theorem digit?_digitChar : ∀ d : Fin 16, digit? (Nat.digitChar d.val) = some d := by
  decide

private theorem digitChar_ne : ∀ d : Fin 16, Nat.digitChar d.val ≠ '-' ∧
    Nat.digitChar d.val ≠ '{' ∧ (Nat.digitChar d.val).toLower ≠ 'u' := by
  decide

private theorem ofDigits?_map (id : Uuid) :
    ofDigits? (id.digits.map fun d => Nat.digitChar d.val) = some id := by
  have h : (id.digits.map fun d => Nat.digitChar d.val).mapM digit? = some id.digits := by
    induction id.digits with
    | nil => rfl
    | cons d ds ih => simp [digit?_digitChar, ih]
  simp [ofDigits?, h, id.length_eq]

private theorem unwrap_cons {c : Char} {rest : List Char} (hb : c ≠ '{') (hs : c.toLower ≠ 'u') :
    unwrap (c :: rest) = c :: rest := by
  unfold unwrap
  split
  · rename_i heq
    exact absurd (List.cons.inj heq).1 hb
  · rw [if_neg]
    intro h
    exact hs (List.cons.inj h).1

/-- The text of an identifier is read as that identifier. -/
@[simp] theorem parse?_text (id : Uuid) : parse? id.text = some id := by
  have hl : (id.digits.map fun d => Nat.digitChar d.val).length = 32 := by simp [id.length_eq]
  have hm : '-' ∉ id.digits.map fun d => Nat.digitChar d.val := by
    intro h
    obtain ⟨d, -, hd⟩ := List.mem_map.1 h
    exact (digitChar_ne d).1 hd
  have hp := id.ofDigits?_map
  have hc : ∃ c rest, (id.digits.map fun d => Nat.digitChar d.val) = c :: rest ∧ c ≠ '{' ∧
      c.toLower ≠ 'u' := by
    cases hd : id.digits with
    | nil => simp [hd] at hl
    | cons d ds => exact ⟨_, _, rfl, (digitChar_ne d).2⟩
  unfold parse? text
  generalize (id.digits.map fun d => Nat.digitChar d.val) = cs at hl hm hp hc
  have hw : ∀ tail, unwrap (cs.take 8 ++ tail) = cs.take 8 ++ tail := by
    obtain ⟨c, rest, rfl, hb, hs⟩ := hc
    exact fun tail => unwrap_cons hb hs
  have ht : ∀ n, '-' ∉ (cs.drop n).take 4 := fun n h =>
    hm (List.mem_of_mem_drop (List.mem_of_mem_take h))
  have hu : unhyphenate? (cs.take 8 ++ '-' :: (cs.drop 8).take 4 ++ '-' :: (cs.drop 12).take 4 ++
      '-' :: (cs.drop 16).take 4 ++ '-' :: cs.drop 20) = some cs := by
    have hsplit : Text.splitOn '-' (cs.take 8 ++ '-' :: (cs.drop 8).take 4 ++
        '-' :: (cs.drop 12).take 4 ++ '-' :: (cs.drop 16).take 4 ++ '-' :: cs.drop 20) =
        [cs.take 8, (cs.drop 8).take 4, (cs.drop 12).take 4, (cs.drop 16).take 4, cs.drop 20] := by
      simp only [List.append_assoc, List.cons_append]
      rw [Text.splitOn_append_cons fun h => hm (List.mem_of_mem_take h),
        Text.splitOn_append_cons (ht 8), Text.splitOn_append_cons (ht 12),
        Text.splitOn_append_cons (ht 16),
        Text.splitOn_of_notMem fun h => hm (List.mem_of_mem_drop h)]
    have hjoin : [cs.take 8, (cs.drop 8).take 4, (cs.drop 12).take 4, (cs.drop 16).take 4,
        cs.drop 20].flatten = cs := by
      have h16 := List.take_append_drop 4 (cs.drop 16)
      have h12 := List.take_append_drop 4 (cs.drop 12)
      have h8 := List.take_append_drop 4 (cs.drop 8)
      have h0 := List.take_append_drop 8 cs
      rw [List.drop_drop] at h16 h12 h8
      simp only [List.flatten_cons, List.flatten_nil, List.append_nil]
      rw [h16, h12, h8, h0]
    unfold unhyphenate?
    rw [hsplit, if_pos (by simp [hl]), hjoin]
  simp only [String.toList_ofList]
  rw [if_neg (by simp [hl])]
  simp only [List.append_assoc] at hu ⊢
  rw [hw, hu]
  exact hp

end Uuid
end BrickPipeline
