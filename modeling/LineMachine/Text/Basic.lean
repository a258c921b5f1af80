/-
# Text and bytes

Everything the machine reads and prints is **text**, a list of characters, or
the **bytes** it is stored as.  Lists make the two sides of every rule about
text (a search and the stretch it finds, an encoder and its decoder) definitions
by recursion on the data.  Two texts compare character by character, which is
the order of their encodings as well.
-/

namespace LineMachine

/-- Text is a list of characters. -/
abbrev Text := List Char

/-- Stored text, the contents of a file, what a stream delivers. -/
abbrev Bytes := List UInt8

/-- The number lies in one of the ranges, both ends included. -/
def within (ranges : List (Nat × Nat)) (n : Nat) : Bool :=
  ranges.any fun (lo, hi) => lo ≤ n && n ≤ hi

namespace Text

/-- The decimal digits of a number, without sign or leading zeros. -/
def ofNat (n : Nat) : Text := Nat.toDigits 10 n

/-- How many bytes a text has when it is stored. -/
def size : Text → Nat
  | [] => 0
  | c :: t => c.utf8Size + size t

/-- The first so many bytes of a text; a character that is cut goes with them. -/
def takeBytes : Nat → Text → Text
  | 0, _ => []
  | _ + 1, [] => []
  | n + 1, c :: t => c :: takeBytes (n + 1 - c.utf8Size) t

/-- The text without its first so many bytes and a character that is cut. -/
def dropBytes : Nat → Text → Text
  | 0, t => t
  | _ + 1, [] => []
  | n + 1, c :: t => dropBytes (n + 1 - c.utf8Size) t

theorem size_append (t u : Text) : size (t ++ u) = size t + size u := by
  induction t with
  | nil => simp [size]
  | cons c t ih => simp [size, ih, Nat.add_assoc]

theorem size_reverse (t : Text) : size t.reverse = size t := by
  induction t with
  | nil => rfl
  | cons c t ih => simp [size, size_append, ih, Nat.add_comm]

/-- **Nothing is lost at a cut:** the bytes before it and those after it make up
the text. -/
theorem takeBytes_append_dropBytes (n : Nat) (t : Text) :
    takeBytes n t ++ dropBytes n t = t := by
  induction t generalizing n with
  | nil => cases n <;> rfl
  | cons c t ih => cases n <;> simp [takeBytes, dropBytes, ih]

/-- The bytes of a text are dropped with all its characters. -/
theorem dropBytes_size (t r : Text) : dropBytes (size t) (t ++ r) = r := by
  induction t with
  | nil => simp [size, dropBytes]
  | cons c t ih =>
    have hc := c.utf8Size_pos
    have hs : size (c :: t) = size t + c.utf8Size - 1 + 1 := by rw [size]; omega
    rw [hs, List.cons_append, dropBytes, Nat.sub_add_cancel (by omega), Nat.add_sub_cancel, ih]

/-- The texts one after another, with `sep` between neighbours. -/
def joinWith (sep : Text) : List Text → Text
  | [] => []
  | [t] => t
  | t :: ts => t ++ sep ++ joinWith sep ts

@[simp] theorem joinWith_singleton (sep t : Text) : joinWith sep [t] = t := rfl

@[simp] theorem joinWith_cons_cons (sep t u : Text) (ts : List Text) :
    joinWith sep (t :: u :: ts) = t ++ sep ++ joinWith sep (u :: ts) := rfl

end Text
end LineMachine
