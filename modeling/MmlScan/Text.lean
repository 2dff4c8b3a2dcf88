/-!
# Texts

A text is the list of its characters.  Positions are byte offsets into the UTF-8 form of a text,
so every offset that lies on a character boundary is the `size` of a leading part.  An arbitrary
offset is brought to a boundary by `splitAt`, which cuts before the first character that does not
fit.
-/

namespace MmlScan

/-- A text, character by character. -/
abbrev Text := List Char

namespace Text

/-- Length of the UTF-8 form in bytes. -/
def size (text : Text) : Nat :=
  text.foldl (fun bytes c => bytes + c.utf8Size) 0

private theorem foldl_utf8Size (text : Text) (bytes : Nat) :
    text.foldl (fun bytes c => bytes + c.utf8Size) bytes = bytes + size text := by
  induction text generalizing bytes with
  | nil => rfl
  | cons c rest ih =>
      have whole : size (c :: rest) = 0 + c.utf8Size + size rest := ih (0 + c.utf8Size)
      rw [List.foldl_cons, ih, whole]
      omega

@[simp]
theorem size_nil : size [] = 0 := rfl

@[simp]
theorem size_cons (c : Char) (rest : Text) : size (c :: rest) = c.utf8Size + size rest := by
  rw [size, List.foldl_cons, foldl_utf8Size, Nat.zero_add]

@[simp]
theorem size_append (front back : Text) : size (front ++ back) = size front + size back := by
  induction front with
  | nil => simp
  | cons c front ih => simp [ih, Nat.add_assoc]

@[simp]
theorem size_reverse (text : Text) : size text.reverse = size text := by
  induction text with
  | nil => rfl
  | cons c rest ih => simp [ih, Nat.add_comm]

theorem size_take_add_size_drop (count : Nat) (text : Text) :
    size (text.take count) + size (text.drop count) = size text := by
  rw [← size_append, List.take_append_drop]

theorem size_eq_zero_iff {text : Text} : size text = 0 ↔ text = [] := by
  cases text with
  | nil => simp
  | cons c rest =>
      have width_pos := c.utf8Size_pos
      simp only [size_cons, reduceCtorEq, iff_false]
      omega

/-- Number of whole leading characters that fit into `bytes` bytes. -/
def charsWithin : Text → Nat → Nat
  | [], _ => 0
  | c :: rest, bytes =>
      if c.utf8Size ≤ bytes then charsWithin rest (bytes - c.utf8Size) + 1 else 0

/-- Cuts a text at a byte offset: at the greatest character boundary not beyond it. -/
def splitAt (text : Text) (offset : Nat) : Text × Text :=
  List.splitAt (charsWithin text offset) text

theorem splitAt_append (text : Text) (offset : Nat) :
    (splitAt text offset).1 ++ (splitAt text offset).2 = text := by
  simp [splitAt]

theorem charsWithin_append (front back : Text) {bytes : Nat} (fits : size front ≤ bytes) :
    charsWithin (front ++ back) bytes = front.length + charsWithin back (bytes - size front) := by
  induction front generalizing bytes with
  | nil => simp
  | cons c front ih =>
      simp only [size_cons] at fits
      simp only [List.cons_append, charsWithin, size_cons, List.length_cons]
      rw [if_pos (by omega), ih (by omega), Nat.sub_sub]
      omega

/-- Behind a part that fits, the cut goes on from its end. -/
theorem splitAt_append_of_le (front back : Text) {offset : Nat} (fits : size front ≤ offset) :
    splitAt (front ++ back) offset =
      (front ++ back.take (charsWithin back (offset - size front)),
        back.drop (charsWithin back (offset - size front))) := by
  simp [splitAt, charsWithin_append front back fits, List.take_length_add_append,
    List.drop_length_add_append]

/-- The cut falls between two parts if the first fits and the next character does not. -/
theorem splitAt_append_of_lt (front : Text) (c : Char) (back : Text) {offset : Nat}
    (fits : size front ≤ offset) (crosses : offset < size front + c.utf8Size) :
    splitAt (front ++ c :: back) offset = (front, c :: back) := by
  rw [splitAt_append_of_le front (c :: back) fits, charsWithin, if_neg (by omega)]
  simp

/-- Cutting at the size of a leading part separates exactly that part. -/
theorem splitAt_size (front back : Text) : splitAt (front ++ back) (size front) = (front, back) := by
  rw [splitAt_append_of_le front back (Nat.le_refl _), Nat.sub_self]
  cases back with
  | nil => simp [charsWithin]
  | cons c rest =>
      have width_pos := c.utf8Size_pos
      rw [charsWithin, if_neg (by omega)]
      simp

theorem take_length_takeWhile (property : Char → Bool) (text : Text) :
    text.take (text.takeWhile property).length = text.takeWhile property := by
  conv =>
    enter [1, 2]
    rw [← List.takeWhile_append_dropWhile (p := property) (l := text)]
  exact List.take_left

theorem drop_length_takeWhile (property : Char → Bool) (text : Text) :
    text.drop (text.takeWhile property).length = text.dropWhile property := by
  conv =>
    enter [1, 2]
    rw [← List.takeWhile_append_dropWhile (p := property) (l := text)]
  exact List.drop_left

/-- Line of the position that follows `front`, counting from one. -/
def lineAfter (front : Text) : Nat :=
  1 + front.count '\n'

theorem lineAfter_drop (count : Nat) (text : Text) :
    lineAfter (text.drop count) = lineAfter text - (text.take count).count '\n' := by
  have parts := congrArg (List.count '\n') (List.take_append_drop count text)
  rw [List.count_append] at parts
  rw [lineAfter, lineAfter]
  omega

@[simp]
theorem lineAfter_nil : lineAfter [] = 1 := rfl

theorem lineAfter_append (front back : Text) :
    lineAfter (front ++ back) = lineAfter front + back.count '\n' := by
  simp [lineAfter, Nat.add_assoc]

@[simp]
theorem lineAfter_reverse (text : Text) : lineAfter text.reverse = lineAfter text := by
  simp [lineAfter]

/-- The texts of `parts` with `separator` between neighbours. -/
def joinWith (separator : Text) (parts : List Text) : Text :=
  (parts.intersperse separator).flatten

end Text

end MmlScan
