import GatewayClient.Endpoint
import GatewayClient.Proofs.Text.Trimming

/-!
# GatewayClient.Proofs.Endpoint.BaseUrl

What normalizing leaves of a base URL. The blanks at both ends are dropped first, and the slashes
at the end after them, so that neither sees what the other one uncovers:

```
" http://h// "  →  "http://h"
"http://h /"    →  "http://h "
"http://h / "   →  "http://h "
```

The blank that is left stood right before the last slashes: the URL was interrupted there. Every
other URL is stripped of all blanks in front and of all blanks and slashes behind (`stripped?`),
in whatever order they stand.
-/

namespace GatewayClient.Endpoint

open Text

/-! ## what normalizing should leave -/

/-- Whether a character is dropped at the end of a base URL. -/
def isEnding (c : Char) : Bool := isBlank c || c == '/'

/-- A URL without the blanks in front, and the blanks and slashes behind. -/
def stripped (cs : List Char) : List Char := (trimStart cs).rdropWhile isEnding

/-- A text, unless it is empty. -/
def unlessEmpty (cs : List Char) : Option String := if cs.isEmpty then none else some (.ofList cs)

/-- A base URL without the blanks in front, and the blanks and slashes behind, unless nothing is
left. -/
def stripped? (url : String) : Option String := unlessEmpty (stripped url.toList)

/-- Whether a blank stands right before the last slashes, with something visible before it. -/
def Interrupted (url : String) : Prop :=
  ∃ front blank slashes blanks, url.toList = front ++ [blank] ++ slashes ++ blanks ∧
    (∃ c ∈ front, isBlank c = false) ∧ isBlank blank = true ∧ slashes ≠ [] ∧
    (∀ c ∈ slashes, c = '/') ∧ ∀ c ∈ blanks, isBlank c = true

/-- Whether two URLs differ only in the blanks around them and the slashes behind. -/
def SameButPadding (url other : String) : Prop :=
  ∃ core front back front' back', url.toList = front ++ core ++ back ∧
    other.toList = front' ++ core ++ back' ∧
    (∀ c ∈ front ++ front', isBlank c = true) ∧ ∀ c ∈ back ++ back', isEnding c = true

/-- Only padding is stripped. -/
theorem stripped_padded {front core back : List Char} (blank : ∀ c ∈ front, isBlank c = true)
    (ending : ∀ c ∈ back, isEnding c = true) :
    stripped (front ++ core ++ back) = stripped core := by
  unfold stripped
  rw [List.append_assoc, trimStart_append_of_blank blank]
  by_cases visible : ∃ c ∈ core, isBlank c = false
  · rw [trimStart_append visible, rdropWhile_append_of_pos ending]
  · have all : ∀ c ∈ core, isBlank c = true := by simpa using visible
    have none : trimStart core = [] := by simpa [trimStart] using all
    have kept : ∀ c ∈ trimStart back, isEnding c = true := fun c member =>
      ending c ((List.dropWhile_suffix _).mem member)
    rw [trimStart_append_of_blank all, none, List.rdropWhile_eq_nil_iff.mpr kept,
      List.rdropWhile_nil]

/-- URLs that differ only in what is stripped are stripped to the same. -/
theorem SameButPadding.stripped?_eq {url other : String} (same : SameButPadding url other) :
    stripped? url = stripped? other := by
  obtain ⟨core, front, back, front', back', whole, whole', blank, ending⟩ := same
  rw [stripped?, stripped?, whole, whole',
    stripped_padded (fun c member => blank c (by simp [member]))
      (fun c member => ending c (by simp [member])),
    stripped_padded (fun c member => blank c (by simp [member]))
      (fun c member => ending c (by simp [member]))]

/-! ## what it leaves -/

/-- The characters that normalizing leaves. -/
def kept (cs : List Char) : List Char := dropSlashes (trim cs)

theorem kept_eq (cs : List Char) :
    kept cs = ((trimStart cs).rdropWhile isBlank).rdropWhile (· == '/') := rfl

theorem normalize?_eq (url : String) : normalize? url = unlessEmpty (kept url.toList) := rfl

theorem unlessEmpty_inj {cs ds : List Char} : unlessEmpty cs = unlessEmpty ds ↔ cs = ds := by
  cases cs <;> cases ds <;> simp [unlessEmpty, ← String.toList_inj]

theorem unlessEmpty_eq_some_iff {cs : List Char} {s : String} :
    unlessEmpty cs = some s ↔ cs = s.toList ∧ s ≠ "" := by
  cases cs with
  | nil =>
    refine ⟨nofun, fun ⟨empty, full⟩ => ?_⟩
    exact absurd (String.toList_eq_nil_iff.mp empty.symm) full
  | cons c cs =>
    simp only [unlessEmpty, List.isEmpty_cons, Bool.false_eq_true, if_false, Option.some.injEq,
      ← String.toList_inj, String.toList_ofList, ne_eq, iff_self_and]
    intro own
    simp [← own]

theorem prefix_kept (cs : List Char) : kept cs <+: trimStart cs :=
  (List.rdropWhile_prefix _ _).trans (List.rdropWhile_prefix _ _)

/-- What is left begins with no blank. -/
theorem isBlank_of_head?_kept (first : (kept cs).head? = some c) : isBlank c = false := by
  obtain ⟨rest, own⟩ := List.head?_eq_some_iff.mp first
  have same := trimStart_of_prefix (prefix_kept cs)
  exact isBlank_of_trimStart_eq_cons (same.trans own)

/-- What is left ends in no slash. -/
theorem ne_slash_of_getLast?_kept (last : (kept cs).getLast? = some c) : c ≠ '/' := by
  simpa using last_rdropWhile (p := (· == '/')) last

/-- All that may be left too much is a blank at the end. -/
theorem kept_eq_stripped_iff :
    kept cs = stripped cs ↔ ∀ c, (kept cs).getLast? = some c → isBlank c = false := by
  have rest : (kept cs).rdropWhile isEnding = stripped cs := by
    rw [kept_eq, stripped, rdropWhile_rdropWhile (by simp [isEnding]),
      rdropWhile_rdropWhile (by simp +contextual [isEnding])]
  rw [← rest, eq_comm, rdropWhile_eq_self]
  refine forall₂_congr fun c last => ?_
  simp [isEnding, ne_slash_of_getLast?_kept last]

/-- A URL that is interrupted is left with the blank at its end. -/
theorem kept_of_interrupted {front slashes blanks : List Char} {blank : Char}
    (visible : ∃ c ∈ front, isBlank c = false) (gap : isBlank blank = true) (full : slashes ≠ [])
    (slash : ∀ c ∈ slashes, c = '/') (trailing : ∀ c ∈ blanks, isBlank c = true) :
    kept (front ++ [blank] ++ slashes ++ blanks) = trimStart front ++ [blank] := by
  have ended : (trimStart front ++ [blank] ++ slashes).rdropWhile isBlank =
      trimStart front ++ [blank] ++ slashes := by
    rw [rdropWhile_eq_self]
    intro c last
    rw [List.getLast?_append_of_ne_nil _ full] at last
    rw [slash c (List.mem_of_getLast? last)]
    decide
  have stopped :
      (trimStart front ++ [blank]).rdropWhile (· == '/') = trimStart front ++ [blank] := by
    rw [List.rdropWhile_concat_neg]
    rw [beq_iff_eq]
    rintro rfl
    contradiction
  rw [kept_eq, List.append_assoc, List.append_assoc, trimStart_append visible, ← List.append_assoc,
    ← List.append_assoc, rdropWhile_append_of_pos trailing, ended,
    rdropWhile_append_of_pos (by simpa using slash), stopped]

/-- A blank is left at the end just of the URLs that are interrupted. -/
theorem interrupted_iff {url : String} :
    Interrupted url ↔ ∃ c, (kept url.toList).getLast? = some c ∧ isBlank c = true := by
  constructor
  · rintro ⟨front, blank, slashes, blanks, whole, visible, gap, full, slash, trailing⟩
    refine ⟨blank, ?_, gap⟩
    rw [whole, kept_of_interrupted visible gap full slash trailing, List.getLast?_concat]
  · rintro ⟨blank, last, gap⟩
    obtain ⟨before, left⟩ := List.getLast?_eq_some_iff.mp last
    -- the URL is put together again from what was dropped
    let inner := (trimStart url.toList).rdropWhile isBlank
    have slashes : before ++ [blank] ++ inner.rtakeWhile (· == '/') = inner := by
      rw [← left]
      exact List.rdropWhile_append_rtakeWhile
    have blanks : inner ++ (trimStart url.toList).rtakeWhile isBlank = trimStart url.toList :=
      List.rdropWhile_append_rtakeWhile
    refine ⟨url.toList.takeWhile isBlank ++ before, blank, inner.rtakeWhile (· == '/'),
      (trimStart url.toList).rtakeWhile isBlank, ?_, ?_, gap, ?_, ?_,
      fun c => List.mem_rtakeWhile_imp⟩
    · rw [List.append_assoc, List.append_assoc, List.append_assoc, ← List.append_assoc before,
        ← List.append_assoc (before ++ [blank]), slashes, blanks]
      exact List.takeWhile_append_dropWhile.symm
    · cases before with
      | nil =>
        have first : (kept url.toList).head? = some blank := by rw [left]; rfl
        have visible := isBlank_of_head?_kept first
        simp [gap] at visible
      | cons c before =>
        have first : (kept url.toList).head? = some c := by rw [left]; rfl
        exact ⟨c, by simp, isBlank_of_head?_kept first⟩
    · intro none
      rw [none, List.append_nil] at slashes
      have ended : inner.getLast? = some blank := by rw [← slashes, List.getLast?_concat]
      have visible := last_rdropWhile ended
      simp [gap] at visible
    · intro c member
      simpa using List.mem_rtakeWhile_imp member

/-! ## normalizing again -/

/-- What is left is left as it is the next time, unless it ends in a blank. -/
theorem kept_kept_iff : kept (kept cs) = kept cs ↔
    ∀ c, (kept cs).getLast? = some c → isBlank c = false := by
  have start : trimStart (kept cs) = kept cs := trimStart_of_prefix (prefix_kept cs)
  rw [← rdropWhile_eq_self]
  constructor
  · intro same
    have inner : kept cs <+: (kept cs).rdropWhile isBlank := by
      conv => lhs; rw [← same, kept_eq, start]
      exact List.rdropWhile_prefix _ _
    exact ((List.rdropWhile_prefix _ _).eq_of_length_le inner.length_le)
  · intro trimmed
    rw [kept_eq (kept cs), start, trimmed]
    exact List.rdropWhile_idempotent _ _

theorem not_interrupted_iff {url : String} :
    ¬ Interrupted url ↔ ∀ c, (kept url.toList).getLast? = some c → isBlank c = false := by
  simp [interrupted_iff]

/-- Normalizing strips a URL unless it is interrupted. -/
theorem normalize?_eq_stripped?_iff {url : String} :
    normalize? url = stripped? url ↔ ¬ Interrupted url := by
  rw [not_interrupted_iff, ← kept_eq_stripped_iff, normalize?_eq, stripped?, unlessEmpty_inj]

/-- **Normal form**: what normalizing leaves is not empty, begins with no blank and ends in no
slash. It ends in a blank, and is not left as it is the next time, exactly if the URL was
interrupted. A URL that was not is stripped of everything that may stand around a base URL, so
that it is normalized to the same result as all others that differ only in that, except for those
that are interrupted. -/
theorem normalized_unless_interrupted (url : String) :
    (∀ base, normalize? url = some base → base ≠ "" ∧
      (∀ c, base.toList.head? = some c → isBlank c = false) ∧ base.toList.getLast? ≠ some '/' ∧
      ((∃ c, base.toList.getLast? = some c ∧ isBlank c = true) ↔ Interrupted url) ∧
      (normalize? base = some base ↔ ¬ Interrupted url)) ∧
    (normalize? url = stripped? url ↔ ¬ Interrupted url) ∧
    ∀ other, SameButPadding url other → ¬ Interrupted url →
      (normalize? url = normalize? other ↔ ¬ Interrupted other) := by
  refine ⟨fun base normalized => ?_, normalize?_eq_stripped?_iff, fun other same whole => ?_⟩
  · rw [normalize?_eq] at normalized
    obtain ⟨own, full⟩ := unlessEmpty_eq_some_iff.mp normalized
    refine ⟨full, ?_, ?_, ?_, ?_⟩
    · intro c first
      rw [← own] at first
      exact isBlank_of_head?_kept first
    · intro last
      rw [← own] at last
      exact ne_slash_of_getLast?_kept last rfl
    · rw [interrupted_iff, own]
    · rw [normalize?_eq, unlessEmpty_eq_some_iff, ← own, kept_kept_iff, not_interrupted_iff,
        and_iff_left full]
  · rw [normalize?_eq_stripped?_iff.mpr whole, same.stripped?_eq, eq_comm]
    exact normalize?_eq_stripped?_iff

/-- Blanks and slashes in another order, but no blank before the last slashes. -/
theorem normalized_unless_interrupted_padded :
    normalize? "  http://h// " = some "http://h" ∧ normalize? "http://h" = some "http://h" ∧
      SameButPadding "  http://h// " "\thttp://h" ∧ ¬ Interrupted "  http://h// " ∧
      normalize? "  http://h// " = normalize? "\thttp://h" := by
  have same : SameButPadding "  http://h// " "\thttp://h" :=
    ⟨"http://h".toList, [' ', ' '], ['/', '/', ' '], ['\t'], [], by decide +kernel,
      by decide +kernel, List.all_eq_true.mp (by decide), List.all_eq_true.mp (by decide)⟩
  have normalized : normalize? "  http://h// " = some "http://h" := by decide +kernel
  obtain ⟨left, stripping, padded⟩ := normalized_unless_interrupted "  http://h// "
  obtain ⟨-, -, -, -, again⟩ := left "http://h" normalized
  have whole : ¬ Interrupted "  http://h// " := stripping.mp (by decide +kernel)
  have whole' : ¬ Interrupted "\thttp://h" :=
    (normalized_unless_interrupted "\thttp://h").2.1.mp (by decide +kernel)
  exact ⟨normalized, again.mpr whole, same, whole, (padded _ same whole).mpr whole'⟩

/-- A blank before the last slash stays, and is only dropped the next time. -/
theorem interrupting_blank_stays :
    normalize? "http://h /" = some "http://h " ∧ normalize? "http://h " = some "http://h" ∧
      normalize? "http://h /" ≠ normalize? "http://h" := by
  decide +kernel

end GatewayClient.Endpoint
