namespace TableBench.Text

/-- A parameter of a control sequence: a digit or one of `:;<=>?`. -/
def isParameter (c : Char) : Bool := 0x30 ≤ c.toNat && c.toNat ≤ 0x3f

def isIntermediate (c : Char) : Bool := 0x20 ≤ c.toNat && c.toNat ≤ 0x2f

def isFinal (c : Char) : Bool := 0x40 ≤ c.toNat && c.toNat ≤ 0x7e

/-- What follows the control sequence that the text starts with: an escape character, an opening
bracket, parameters, intermediate characters and a final one. -/
def afterSequence? : List Char → Option (List Char)
  | '\x1b' :: '[' :: r =>
    match (r.dropWhile isParameter).dropWhile isIntermediate with
    | c :: r => if isFinal c then some r else none
    | [] => none
  | _ => none

theorem length_lt_of_afterSequence? {cs r : List Char} (h : afterSequence? cs = some r) :
    r.length < cs.length := by
  unfold afterSequence? at h
  split at h
  · next s =>
    split at h
    · next c t ht =>
      split at h
      · cases h
        have hs := Nat.le_trans (List.dropWhile_suffix isIntermediate).length_le
          (List.dropWhile_suffix isParameter (l := s)).length_le
        rw [ht] at hs
        simp only [List.length_cons] at hs ⊢
        omega
      · cases h
    · cases h
  · cases h

/-- The characters without control sequences; what only starts like one stays. -/
def dropSequences : List Char → List Char
  | [] => []
  | c :: r =>
    match h : afterSequence? (c :: r) with
    | some rest =>
      have : rest.length < (c :: r).length := length_lt_of_afterSequence? h
      dropSequences rest
    | none => c :: dropSequences r
termination_by cs => cs.length
decreasing_by
  · exact this
  · exact Nat.lt_succ_self _

/-- A text as it is shown where control sequences have no effect: without them. -/
def unstyled (s : String) : String := String.ofList (dropSequences s.toList)

end TableBench.Text
