import GatewayClient.Proofs.Json.Holding
import GatewayClient.Proofs.Json.Literals
import Mathlib.Data.List.DropRight

/-!
# GatewayClient.Proofs.Json.Texts

Texts that are put together from texts. A value at the front of a text is read as it is by itself
when something behind it tells that it has ended (`readValue_append`), with any spaces around it:

```
{ "name" :  value  ,  "name" :  value  }
            |-----|-- what follows: a comma or a bracket, with which no number goes on
```

So an object is well-formed when the values of its members are, and is read as these members in
their order (`isValue_objectText`), arrays likewise.
-/

namespace GatewayClient.Json

/-! ## the front of a value -/

section Front

variable {fuel : Nat} {cs rest left : List Char} {c : Char}

theorem skipSpace_cons (apart : isSpace c = false) (cs : List Char) :
    skipSpace (c :: cs) = c :: cs := by
  simp [skipSpace, apart]

/-- Space is skipped alike in front of a text that does not end with it. -/
theorem skipSpace_append (first : skipSpace cs = c :: rest) (more : List Char) :
    skipSpace (cs ++ more) = c :: (rest ++ more) := by
  unfold skipSpace at first ⊢
  have full : ¬ (cs.dropWhile isSpace).isEmpty = true := by simp [first]
  rw [List.dropWhile_append, if_neg full, first]
  rfl

/-- Space that is all there is goes on into what follows. -/
theorem skipSpace_append_of_blank (blank : skipSpace cs = []) (more : List Char) :
    skipSpace (cs ++ more) = skipSpace more := by
  unfold skipSpace at blank ⊢
  rw [List.dropWhile_append, blank]
  rfl

theorem skipSpace_skipSpace (cs : List Char) : skipSpace (skipSpace cs) = skipSpace cs :=
  List.dropWhile_idempotent isSpace cs

/-- A value may have space in front of it. -/
theorem readValue_skipSpace (fuel : Nat) (cs : List Char) :
    readValue fuel (skipSpace cs) = readValue fuel cs := by
  cases fuel with
  | zero => rfl
  | succ fuel => rw [readValue, readValue, skipSpace_skipSpace]

theorem readItems_skipSpace (fuel : Nat) (cs : List Char) :
    readItems fuel (skipSpace cs) = readItems fuel cs := by
  cases fuel with
  | zero => rfl
  | succ fuel => rw [readItems, readItems, readValue_skipSpace]

theorem readMembers_skipSpace (fuel : Nat) (cs : List Char) :
    readMembers fuel (skipSpace cs) = readMembers fuel cs := by
  cases fuel with
  | zero => rfl
  | succ fuel => rw [readMembers, readMembers, skipSpace_skipSpace]

/-- A bracket with anything behind it but a closing bracket begins items. -/
theorem readValue_items (first : skipSpace cs = '[' :: rest) (item : skipSpace rest = c :: left)
    (more : c ≠ ']') : readValue (fuel + 1) cs =
      (.array (readItems fuel rest).1 (failure? (readItems fuel rest).2),
        (readItems fuel rest).2.toOption) := by
  rw [readValue, first]
  simp only [item]
  split
  · next same => exact absurd (List.cons.inj same).1 more
  · contradiction
  · rw [← item, readItems_skipSpace]

/-- A brace with anything behind it but a closing brace begins members. -/
theorem readValue_members (first : skipSpace cs = '\x7b' :: rest)
    (member : skipSpace rest = c :: left) (more : c ≠ '\x7d') : readValue (fuel + 1) cs =
      (.object (readMembers fuel rest).1 (failure? (readMembers fuel rest).2),
        (readMembers fuel rest).2.toOption) := by
  rw [readValue, first]
  simp only [member]
  split
  · next same => exact absurd (List.cons.inj same).1 more
  · contradiction
  · rw [← member, readMembers_skipSpace]

/-- A minus sign or a digit begins a number. -/
theorem readValue_number (first : skipSpace cs = c :: rest)
    (lead : c = '-' ∨ Text.isDigit c = true) :
    readValue (fuel + 1) cs = numberReading (c :: rest) := by
  have others : c ∉ ['"', '[', '\x7b', 'n', 't', 'f'] := by
    simp only [List.mem_cons, List.not_mem_nil, or_false]
    rintro (rfl | rfl | rfl | rfl | rfl | rfl) <;> revert lead <;> decide
  simp only [List.mem_cons, List.not_mem_nil, or_false, not_or] at others
  rw [readValue, first]
  split <;> grind

end Front

/-! ## what follows a value

The fuel is that of the whole text, which grows with what follows: so it is only known to be enough.
-/

/-- A word is read alike, whatever follows. -/
theorem readWord_append {ws cs rest : List Char} (read : readWord ws cs = .ok rest)
    (more : List Char) : readWord ws (cs ++ more) = .ok (rest ++ more) := by
  induction ws generalizing cs with
  | nil =>
    cases read
    rfl
  | cons w ws ih =>
    cases cs with
    | nil => contradiction
    | cons c cs =>
      rw [readWord] at read
      rw [List.cons_append, readWord]
      split at read
      · next same => rw [if_pos same, ih read]
      · contradiction

theorem wordReading_append {word : String} {value source : Source} {cs rest : List Char}
    (read : wordReading word value cs = (source, some rest)) (more : List Char) :
    wordReading word value (cs ++ more) = (source, some (rest ++ more)) := by
  unfold wordReading at read ⊢
  split at read
  · next left word =>
    cases read
    rw [readWord_append word]
  · cases read

/-- A number that has ended is read alike, whatever follows. -/
theorem numberReading_append {source : Source} {cs rest more : List Char}
    (read : numberReading cs = (source, some rest)) (ended : Ended rest more) :
    numberReading (cs ++ more) = (source, some (rest ++ more)) := by
  unfold numberReading at read ⊢
  split at read
  · next p number =>
    cases read
    rw [readNumber_append number ended]
  · cases read

/-- A string is read alike, whatever follows its quote. -/
theorem stringReading_append {source : Source} {cs rest : List Char}
    (read : stringReading cs = (source, some rest)) (more : List Char) :
    stringReading (cs ++ more) = (source, some (rest ++ more)) := by
  unfold stringReading at read ⊢
  split at read
  · next p string =>
    cases read
    rw [readString_append string]
  · cases read

/-- Items or members that were read to their closing bracket. -/
theorem eq_of_toOption {reading : List α × Except Failure (List Char)}
    (closed : reading.2.toOption = some rest) : reading = (reading.1, .ok rest) :=
  Prod.ext rfl (eq_ok_of_toOption closed)

mutual

/-- A value is read alike when more follows it. -/
theorem readValue_append {fuel fuel' : Nat} {cs rest more : List Char} {source : Source}
    (read : readValue fuel cs = (source, some rest)) (ended : Ended rest more)
    (room : fuel ≤ fuel') : readValue fuel' (cs ++ more) = (source, some (rest ++ more)) := by
  cases fuel with
  | zero => cases read
  | succ fuel =>
    obtain ⟨fuel', rfl⟩ := Nat.exists_eq_succ_of_ne_zero (n := fuel') (by omega)
    rw [readValue] at read
    -- one case for each first character; only a number can be changed by what follows
    split at read
    · cases read
    · next string first =>
      rw [readValue, skipSpace_append first]
      exact stringReading_append read more
    · next items first =>
      have first' := skipSpace_append first more
      split at read
      · next left empty =>
        cases read
        rw [readValue, first']
        simp only [skipSpace_append empty]
      · cases read
      · next apart full =>
        rw [readItems_skipSpace] at read
        obtain ⟨c, left, item⟩ := List.exists_cons_of_ne_nil full
        have goesOn : c ≠ ']' := by
          rintro rfl
          exact apart left item
        obtain ⟨rfl, closed⟩ := Prod.mk.inj read
        have behind := readItems_append (eq_of_toOption closed) more (by omega : fuel ≤ fuel')
        rw [readValue_items first' (skipSpace_append item more) goesOn, behind,
          eq_ok_of_toOption closed]
        rfl
    · next members first =>
      have first' := skipSpace_append first more
      split at read
      · next left empty =>
        cases read
        rw [readValue, first']
        simp only [skipSpace_append empty]
      · cases read
      · next apart full =>
        rw [readMembers_skipSpace] at read
        obtain ⟨c, left, member⟩ := List.exists_cons_of_ne_nil full
        have goesOn : c ≠ '\x7d' := by
          rintro rfl
          exact apart left member
        obtain ⟨rfl, closed⟩ := Prod.mk.inj read
        have behind := readMembers_append (eq_of_toOption closed) more (by omega : fuel ≤ fuel')
        rw [readValue_members first' (skipSpace_append member more) goesOn, behind,
          eq_ok_of_toOption closed]
        rfl
    · next word first =>
      rw [readValue, skipSpace_append first]
      exact wordReading_append read more
    · next word first =>
      rw [readValue, skipSpace_append first]
      exact wordReading_append read more
    · next word first =>
      rw [readValue, skipSpace_append first]
      exact wordReading_append read more
    · next c number quote bracket brace n t f first =>
      split at read
      · next lead =>
        rw [readValue_number (skipSpace_append first more) lead]
        exact numberReading_append read ended
      · cases read

/-- Items are read alike up to their bracket, whatever follows it. -/
theorem readItems_append {fuel fuel' : Nat} {cs rest : List Char} {items : List Source}
    (read : readItems fuel cs = (items, .ok rest)) (more : List Char) (room : fuel ≤ fuel') :
    readItems fuel' (cs ++ more) = (items, .ok (rest ++ more)) := by
  cases fuel with
  | zero => cases read
  | succ fuel =>
    obtain ⟨fuel', rfl⟩ := Nat.exists_eq_succ_of_ne_zero (n := fuel') (by omega)
    rw [readItems] at read
    split at read
    · cases read
    · next item left value =>
      have ended : skipSpace left ≠ [] → Ended left more := by
        intro full
        refine .inl ?_
        rintro rfl
        exact full rfl
      split at read
      · cases read
      · next behind closed =>
        cases read
        rw [readItems, readValue_append value (ended (by simp [closed])) (by omega : fuel ≤ fuel')]
        simp only [skipSpace_append closed]
      · next behind comma =>
        obtain ⟨rfl, closed⟩ := Prod.mk.inj read
        have others := readItems_append (Prod.ext rfl closed) more (by omega : fuel ≤ fuel')
        rw [readItems, readValue_append value (ended (by simp [comma])) (by omega : fuel ≤ fuel')]
        simp only [skipSpace_append comma, others]
      · cases read

/-- Members are read alike up to their brace, whatever follows it. -/
theorem readMembers_append {fuel fuel' : Nat} {cs rest : List Char} {ms : Members}
    (read : readMembers fuel cs = (ms, .ok rest)) (more : List Char) (room : fuel ≤ fuel') :
    readMembers fuel' (cs ++ more) = (ms, .ok (rest ++ more)) := by
  cases fuel with
  | zero => cases read
  | succ fuel =>
    obtain ⟨fuel', rfl⟩ := Nat.exists_eq_succ_of_ne_zero (n := fuel') (by omega)
    rw [readMembers] at read
    split at read
    · cases read
    · next string first =>
      rw [readMembers, skipSpace_append first]
      split at read
      · cases read
      · next key quoted =>
        split at read
        · cases read
        · next text colon =>
          simp only [readString_append quoted, skipSpace_append colon]
          split at read
          · cases read
          · next source left value =>
            have ended : skipSpace left ≠ [] → Ended left more := by
              intro full
              refine .inl ?_
              rintro rfl
              exact full rfl
            split at read
            · cases read
            · next behind closed =>
              cases read
              rw [readValue_append value (ended (by simp [closed])) (by omega : fuel ≤ fuel')]
              simp only [skipSpace_append closed]
            · next behind comma =>
              obtain ⟨rfl, closed⟩ := Prod.mk.inj read
              have others := readMembers_append (Prod.ext rfl closed) more (by omega : fuel ≤ fuel')
              rw [readValue_append value (ended (by simp [comma])) (by omega : fuel ≤ fuel')]
              simp only [skipSpace_append comma, others]
            · cases read
        · cases read
    · cases read

end

/-! ## well-formed texts -/

/-- Whether a text is one well-formed value, perhaps with spaces around it, of which this is the
structure. -/
structure IsValue (text : String) (source : Source) : Prop where
  root : Document.read text = ⟨source, false⟩
  wellFormed : source.skim = none

/-- Items that were not read to their end cannot be passed over. -/
theorem skimItems_ne_none (items : List Source) (f : Failure) :
    Source.skimItems items (some f) ≠ none := by
  induction items with
  | nil => simp [Source.skimItems]
  | cons item items ih => simp [Source.skimItems, Option.or_eq_none_iff, ih]

/-- Members that were not read to their end cannot be passed over either. -/
theorem skimMembers_ne_none (ms : Members) (f : Failure) :
    Source.skimMembers ms (some f) ≠ none := by
  induction ms with
  | nil => simp [Source.skimMembers]
  | cons m ms ih => simp [Source.skimMembers, Option.or_eq_none_iff, ih]

theorem failure?_of_toOption {x : Except Failure α} (none : x.toOption = none) :
    ∃ f, failure? x = some f := by
  cases x with
  | ok a => contradiction
  | error f => exact ⟨f, rfl⟩

/-- A value that was not read to its end cannot be passed over. -/
theorem skim_ne_none_of_readValue {fuel : Nat} {cs : List Char} {source : Source}
    (broken : readValue fuel cs = (source, none)) : source.skim ≠ none := by
  have word : ∀ word value cs, wordReading word value cs = (source, none) →
      source.skim ≠ none := by
    intro word value cs reading
    unfold wordReading at reading
    split at reading <;> cases reading
    simp [Source.skim]
  cases fuel with
  | zero =>
    cases broken
    simp [Source.skim]
  | succ fuel =>
    rw [readValue] at broken
    split at broken
    · cases broken
      simp [Source.skim]
    · unfold stringReading at broken
      split at broken <;> cases broken
      simp [Source.skim]
    · split at broken
      · cases broken
      · cases broken
        simp [Source.skim, Source.skimItems]
      · obtain ⟨rfl, unclosed⟩ := Prod.mk.inj broken
        obtain ⟨f, failed⟩ := failure?_of_toOption unclosed
        rw [failed]
        exact skimItems_ne_none _ f
    · split at broken
      · cases broken
      · cases broken
        simp [Source.skim, Source.skimMembers]
      · obtain ⟨rfl, unclosed⟩ := Prod.mk.inj broken
        obtain ⟨f, failed⟩ := failure?_of_toOption unclosed
        rw [failed]
        exact skimMembers_ne_none _ f
    · exact word _ _ _ broken
    · exact word _ _ _ broken
    · exact word _ _ _ broken
    · split at broken
      · unfold numberReading at broken
        split at broken <;> cases broken
        simp [Source.skim]
      · cases broken
        simp [Source.skim]

/-- A well-formed text is read to its end, but for space. -/
theorem IsValue.exists_readValue {text : String} {source : Source} (value : IsValue text source) :
    ∃ rest, readValue (2 * text.toList.length + 2) text.toList = (source, some rest) ∧
      skipSpace rest = [] := by
  have root := congrArg Document.root value.root
  have ends := congrArg Document.trailing value.root
  simp only [Document.read] at root ends
  cases read : readValue (2 * text.toList.length + 2) text.toList with
  | mk source' rest =>
    rw [read] at root ends
    cases root
    cases rest with
    | none => exact absurd value.wellFormed (skim_ne_none_of_readValue read)
    | some rest => exact ⟨rest, rfl, by simpa using ends⟩

/-- A well-formed text is decoded as its structure is. -/
theorem IsValue.decode {text : String} {source : Source} (value : IsValue text source)
    (d : Decoder α) : Decoder.read d text = d ⟨.text, maxDepth⟩ source := by
  rw [Decoder.read, value.root]
  cases d ⟨.text, maxDepth⟩ source <;> rfl

/-- A value in a larger text, where something follows that cannot belong to it. -/
theorem IsValue.readValue_append {text : String} {source : Source} (value : IsValue text source)
    {fuel : Nat} (room : 2 * text.toList.length + 2 ≤ fuel) (stops : Stops more) :
    ∃ blank, skipSpace blank = [] ∧
      readValue fuel (text.toList ++ more) = (source, some (blank ++ more)) := by
  obtain ⟨rest, read, blank⟩ := value.exists_readValue
  exact ⟨rest, blank, Json.readValue_append read (.inr stops) room⟩

/-- The first character of a well-formed text, spaces aside, is no closing bracket. -/
theorem IsValue.lead {text : String} {source : Source} (value : IsValue text source) :
    ∃ c left, skipSpace text.toList = c :: left ∧ c ≠ ']' := by
  obtain ⟨rest, read, -⟩ := value.exists_readValue
  rw [readValue] at read
  cases first : skipSpace text.toList with
  | nil =>
    rw [first] at read
    cases read
  | cons c left =>
    refine ⟨c, left, rfl, ?_⟩
    rintro rfl
    rw [first] at read
    simp [brokenReading, Text.isDigit] at read

/-- A text that is read with nothing left over is one value. -/
theorem IsValue.of_readValue {cs : List Char} {source : Source}
    (read : readValue (2 * cs.length + 2) cs = (source, some []))
    (wellFormed : source.skim = none) : IsValue (.ofList cs) source :=
  ⟨by simp [Document.read, read, skipSpace], wellFormed⟩

/-- A text has one structure. -/
theorem IsValue.unique {text : String} {source source' : Source} (value : IsValue text source)
    (value' : IsValue text source') : source = source' :=
  congrArg Document.root (value.root.symm.trans value'.root)

/-- Spaces around a well-formed text are of no concern. -/
theorem IsValue.surrounded {text : String} {source : Source} (value : IsValue text source)
    {before after : List Char} (blank : skipSpace before = []) (blank' : skipSpace after = []) :
    IsValue (.ofList (before ++ text.toList ++ after)) source := by
  have stops : Stops after := by
    cases after with
    | nil => exact .nil
    | cons c after =>
      have space : isSpace c = true := by
        by_contra other
        simp [skipSpace, other] at blank'
      exact .of_space space after
  have room : 2 * text.toList.length + 2 ≤ 2 * (before ++ text.toList ++ after).length + 2 := by
    simp
    omega
  obtain ⟨left, skipped, read⟩ := value.readValue_append room stops
  refine ⟨?_, value.wellFormed⟩
  rw [← readValue_skipSpace, ← skipSpace_append_of_blank blank, readValue_skipSpace,
    ← List.append_assoc] at read
  simp only [Document.read, String.toList_ofList, read]
  simp [skipSpace_append_of_blank skipped, blank']

/-! ## arrays from their items -/

/-- The text of an array with items, each given by its text. -/
def arrayText : List String → String
  | [] => "[]"
  | t :: ts => .ofList ('[' :: (t.toList ++ (ts.flatMap (fun t => ',' :: t.toList) ++ [']'])))

section Items

variable {text : String} {source : Source} {fuel : Nat}

/-- The last item is read up to the bracket behind it. -/
theorem readItems_last (value : IsValue text source) (room : 2 * text.toList.length + 2 ≤ fuel)
    (rest : List Char) :
    readItems (fuel + 1) (text.toList ++ ']' :: rest) = ([source], .ok rest) := by
  obtain ⟨blank, skipped, read⟩ := value.readValue_append room
    (.cons (c := ']') (by decide) (by decide) rest)
  simp only [readItems, read, skipSpace_append_of_blank skipped,
    skipSpace_cons (show isSpace ']' = false by decide)]

/-- An item in front of a comma is read before the others. -/
theorem readItems_comma (value : IsValue text source) (room : 2 * text.toList.length + 2 ≤ fuel)
    (rest : List Char) : readItems (fuel + 1) (text.toList ++ ',' :: rest) =
      (source :: (readItems fuel rest).1, (readItems fuel rest).2) := by
  obtain ⟨blank, skipped, read⟩ := value.readValue_append room
    (.cons (c := ',') (by decide) (by decide) rest)
  rw [readItems, read]
  simp only [skipSpace_append_of_blank skipped, skipSpace_cons (show isSpace ',' = false by decide)]

/-- Items are read as they were put together. The fuel is about twice what is left of the text, and
each item with its comma takes its own part of it. -/
theorem readItems_texts {ts : List String} {sources : List Source} (value : IsValue text source)
    (values : List.Forall₂ IsValue ts sources)
    (room : 2 * (text.toList ++ ts.flatMap (fun t => ',' :: t.toList)).length + 3 ≤ fuel)
    (rest : List Char) :
    readItems fuel (text.toList ++ (ts.flatMap (fun t => ',' :: t.toList) ++ ']' :: rest)) =
      (source :: sources, .ok rest) := by
  rw [List.length_append] at room
  obtain ⟨fuel, rfl⟩ := Nat.exists_eq_succ_of_ne_zero (n := fuel) (by omega)
  induction values generalizing text source fuel with
  | nil => exact readItems_last value (by omega) rest
  | cons value' values ih =>
    rw [List.flatMap_cons, List.length_append, List.length_cons] at room
    obtain ⟨fuel, rfl⟩ := Nat.exists_eq_succ_of_ne_zero (n := fuel) (by omega)
    have behind := ih value' fuel (by omega)
    rw [List.flatMap_cons, List.append_assoc, List.cons_append, readItems_comma value (by omega),
      behind]

end Items

/-- A text is an array if each of its items is well-formed. -/
theorem isValue_arrayText {ts : List String} {sources : List Source}
    (values : List.Forall₂ IsValue ts sources) : IsValue (arrayText ts) (.array sources none) := by
  have formed : Source.skimItems sources none = none := by
    induction values with
    | nil => rfl
    | cons value values ih => rw [Source.skimItems, value.wellFormed, ih]; rfl
  cases values with
  | nil => exact .of_readValue rfl formed
  | @cons t source ts sources value values =>
    refine .of_readValue ?_ formed
    obtain ⟨c, left, item, more⟩ := value.lead
    rw [readValue_items (skipSpace_cons (by decide) _) (skipSpace_append item _) more,
      readItems_texts value values (by simp; omega)]
    rfl

/-! ## objects from their members -/

/-- Names with sources, as members whose keys are readable. -/
def named (ms : List (String × Source)) : Members := ms.map (fun m => (.ok m.1, m.2))

/-- A member as it is written: its name, a colon and its value. -/
def memberText (m : String × String) : List Char := renderString m.1 ++ ':' :: m.2.toList

/-- The text of an object with members, each given by its name and the text of its value. -/
def objectText : List (String × String) → String
  | [] => "\x7b\x7d"
  | m :: ms =>
    .ofList ('\x7b' :: (memberText m ++ (ms.flatMap (fun m => ',' :: memberText m) ++ ['\x7d'])))

/-- Whether the text of a member's value is well-formed, and read as a source under its name. -/
def IsMember (m : String × String) (s : String × Source) : Prop := m.1 = s.1 ∧ IsValue m.2 s.2

theorem IsValue.member {text : String} {source : Source} (value : IsValue text source)
    (name : String) : IsMember (name, text) (name, source) := ⟨rfl, value⟩

section Members

variable {m : String × String} {source : Source} {fuel : Nat}

theorem memberText_append (m : String × String) (more : List Char) : memberText m ++ more =
    '"' :: (m.1.toList.flatMap escapeChar ++ '"' :: ':' :: (m.2.toList ++ more)) := by
  simp [memberText, renderString]

theorem length_memberText (m : String × String) :
    m.2.toList.length + 3 ≤ (memberText m).length := by
  simp [memberText, renderString]

/-- The last member is read up to the brace behind it. -/
theorem readMembers_last (value : IsValue m.2 source) (room : 2 * m.2.toList.length + 2 ≤ fuel)
    (rest : List Char) : readMembers (fuel + 1) (memberText m ++ '\x7d' :: rest) =
      ([(.ok m.1, source)], .ok rest) := by
  obtain ⟨blank, skipped, read⟩ := value.readValue_append room
    (.cons (c := '\x7d') (by decide) (by decide) rest)
  rw [memberText_append, readMembers, skipSpace_cons (by decide)]
  simp only [readString_renderString, skipSpace_cons (show isSpace ':' = false by decide), read,
    skipSpace_append_of_blank skipped, skipSpace_cons (show isSpace '\x7d' = false by decide)]

/-- A member in front of a comma is read before the others. -/
theorem readMembers_comma (value : IsValue m.2 source) (room : 2 * m.2.toList.length + 2 ≤ fuel)
    (rest : List Char) : readMembers (fuel + 1) (memberText m ++ ',' :: rest) =
      ((.ok m.1, source) :: (readMembers fuel rest).1, (readMembers fuel rest).2) := by
  obtain ⟨blank, skipped, read⟩ := value.readValue_append room
    (.cons (c := ',') (by decide) (by decide) rest)
  rw [memberText_append, readMembers, skipSpace_cons (by decide)]
  simp only [readString_renderString, skipSpace_cons (show isSpace ':' = false by decide), read,
    skipSpace_append_of_blank skipped, skipSpace_cons (show isSpace ',' = false by decide)]

/-- Members are read as they were put together, with fuel as for items. -/
theorem readMembers_texts {ms : List (String × String)} {sources : List (String × Source)}
    (value : IsValue m.2 source) (values : List.Forall₂ IsMember ms sources)
    (room : 2 * (memberText m ++ ms.flatMap (fun m => ',' :: memberText m)).length ≤ fuel)
    (rest : List Char) :
    readMembers fuel
        (memberText m ++ (ms.flatMap (fun m => ',' :: memberText m) ++ '\x7d' :: rest)) =
      (named ((m.1, source) :: sources), .ok rest) := by
  have long := length_memberText m
  rw [List.length_append] at room
  obtain ⟨fuel, rfl⟩ := Nat.exists_eq_succ_of_ne_zero (n := fuel) (by omega)
  induction values generalizing m source fuel with
  | nil => exact readMembers_last value (by omega) rest
  | @cons m' s' ms sources same values ih =>
    obtain ⟨name, value'⟩ := same
    rw [List.flatMap_cons, List.length_append, List.length_cons] at room
    have long' := length_memberText m'
    obtain ⟨fuel, rfl⟩ := Nat.exists_eq_succ_of_ne_zero (n := fuel) (by omega)
    have behind := ih value' long' fuel (by omega)
    rw [List.flatMap_cons, List.append_assoc, List.cons_append,
      readMembers_comma value (by omega), behind, name]
    rfl

end Members

/-- Members with readable names can be passed over if their values can. -/
theorem skimMembers_named {ms : List (String × Source)} :
    Source.skimMembers (named ms) none = none ↔ ∀ m ∈ ms, m.2.skim = none := by
  induction ms with
  | nil => simp [named, Source.skimMembers]
  | cons m ms ih =>
    rw [named, List.map_cons, ← named, Source.skimMembers, Option.or_eq_none_iff, ih]
    simp

/-- A text is an object if the value of each of its members is well-formed. -/
theorem isValue_objectText {ms : List (String × String)} {sources : List (String × Source)}
    (values : List.Forall₂ IsMember ms sources) :
    IsValue (objectText ms) (.object (named sources) none) := by
  have formed : Source.skimMembers (named sources) none = none := by
    rw [skimMembers_named]
    induction values with
    | nil => simp
    | cons same values ih => exact List.forall_mem_cons.mpr ⟨same.2.wellFormed, ih⟩
  cases values with
  | nil => exact .of_readValue rfl formed
  | @cons m s ms sources same values =>
    refine .of_readValue ?_ formed
    obtain ⟨name, value⟩ := same
    have quote := skipSpace_cons (show isSpace '"' = false by decide)
    rw [readValue_members (skipSpace_cons (by decide) _)
        (by rw [memberText_append]; exact quote _) (by decide),
      readMembers_texts value values (by simp; omega), name]
    rfl

end GatewayClient.Json
