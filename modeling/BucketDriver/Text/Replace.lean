/-!
# Replacement

`replace slot new s` puts a text in the place of every occurrence of a slot, scanning from the left.
The scan goes on behind an occurrence, so what it has put in is never looked at again.

Main statement: `replaceFrom_slot` (a slot that occurs once is replaced there and nowhere else).
-/

namespace BucketDriver.Text

/-- Scans a text, passing over the given number of characters first. -/
def replaceFrom (slot new : List Char) : Nat → List Char → List Char
  | _, [] => []
  | skip + 1, _ :: cs => replaceFrom slot new skip cs
  | 0, c :: cs =>
    if slot.isPrefixOf (c :: cs) then new ++ replaceFrom slot new (slot.length - 1) cs
    else c :: replaceFrom slot new 0 cs

/-- The text with every occurrence of a slot, which is not empty, replaced. -/
def replace (slot new s : String) : String :=
  String.ofList (replaceFrom slot.toList new.toList 0 s.toList)

theorem replaceFrom_length (slot new cs ds : List Char) :
    replaceFrom slot new cs.length (cs ++ ds) = replaceFrom slot new 0 ds := by
  induction cs with
  | nil => rfl
  | cons c cs ih => rw [List.length_cons, List.cons_append, replaceFrom, ih]

/-- Characters among which a slot cannot begin stay as they are. -/
theorem replaceFrom_append {c : Char} {cs : List Char} (slot new : List Char) (h : c ∉ cs)
    (ds : List Char) :
    replaceFrom (c :: slot) new 0 (cs ++ ds) = cs ++ replaceFrom (c :: slot) new 0 ds := by
  induction cs with
  | nil => rfl
  | cons d cs ih =>
    obtain ⟨hd, hcs⟩ := not_or.1 (mt List.mem_cons.2 h)
    rw [List.cons_append, replaceFrom, List.isPrefixOf_cons_cons, beq_false_of_ne hd, Bool.false_and,
      if_neg Bool.false_ne_true, ih hcs, List.cons_append]

/-- A slot that occurs once is replaced there and nowhere else, whatever the new text is. -/
theorem replaceFrom_slot {c : Char} {front back : List Char} (slot new : List Char)
    (hfront : c ∉ front) (hback : c ∉ back) :
    replaceFrom (c :: slot) new 0 (front ++ (c :: slot) ++ back) = front ++ new ++ back := by
  have hrest : replaceFrom (c :: slot) new 0 back = back := by
    simpa [replaceFrom] using replaceFrom_append slot new hback []
  have hprefix : (c :: slot).isPrefixOf (c :: (slot ++ back)) = true := by
    simp
  rw [List.append_assoc, replaceFrom_append slot new hfront, List.cons_append, replaceFrom,
    if_pos hprefix, List.length_cons, Nat.add_sub_cancel, replaceFrom_length, hrest,
    List.append_assoc]

end BucketDriver.Text
