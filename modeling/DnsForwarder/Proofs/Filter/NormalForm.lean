import DnsForwarder.Proofs.Filter.Ancestry

/-!
# What normalization leaves

Blanks at the ends, a wildcard in front and dots at the end of a domain are removed in this order
and once each. So a normal form has no dot at its end and no capital, but what one step uncovers for
an earlier one stays: blanks that were behind the wildcard or before the last dots, and a second
wildcard. Normalizing twice is the same as normalizing once unless something of that kind has been
left (`DnsForwarder.Filter.normalize_leaves`).
-/

namespace DnsForwarder

namespace Text

/-- The first character is a blank. -/
def startsBlank (text : List Char) : Bool := text.head?.any isBlank

/-- The last character is a blank. -/
def endsBlank (text : List Char) : Bool := text.getLast?.any isBlank

/-- A text ends in a blank if its last character is one. -/
theorem endsBlank_iff {text : List Char} :
    endsBlank text ↔ ∃ front c, text = front ++ [c] ∧ isBlank c := by
  cases text using List.reverseRecOn with
  | nil => simp [endsBlank]
  | append_singleton front c =>
    rw [endsBlank, List.getLast?_concat, Option.any_some]
    constructor
    · intro blank
      exact ⟨front, c, rfl, blank⟩
    · rintro ⟨_, other, same, blank⟩
      rwa [(List.append_singleton_inj.mp same).2]

/-- What was trimmed starts with no blank. -/
theorem startsBlank_trim (text : List Char) : startsBlank (trim text) = false := by
  have first := List.head?_dropWhile_not isBlank text
  obtain ⟨ending, split⟩ : trim text <+: text.dropWhile isBlank := List.rdropWhile_prefix _ _
  cases trimmed : trim text with
  | nil => rfl
  | cons c rest =>
    rw [← split, trimmed] at first
    exact first

/-- What was trimmed ends in no blank. -/
theorem endsBlank_trim (text : List Char) : endsBlank (trim text) = false := by
  rw [Bool.eq_false_iff]
  intro ends
  obtain ⟨front, c, same, blank⟩ := endsBlank_iff.mp ends
  have nonempty : trim text ≠ [] := by
    rw [same]
    exact List.concat_ne_nil c front
  refine List.rdropWhile_last_not isBlank _ nonempty ?_
  change isBlank ((trim text).getLast nonempty)
  simpa only [same, List.getLast_concat] using blank

/-- Blanks at the ends do not matter to what trimming leaves. -/
theorem trim_append {before after : List Char} (front : ∀ c ∈ before, isBlank c)
    (back : ∀ c ∈ after, isBlank c) (text : List Char) :
    trim (before ++ text ++ after) = trim text := by
  rw [trim, trim, List.append_assoc, List.dropWhile_append_of_pos front, List.dropWhile_append]
  cases kept : text.dropWhile isBlank with
  | nil =>
    have gone : after.dropWhile isBlank = [] := List.dropWhile_eq_nil_iff.mpr back
    rw [List.isEmpty_nil, if_pos rfl, gone]
  | cons c rest =>
    rw [List.isEmpty_cons, if_neg Bool.false_ne_true, dropRightWhile, List.reverse_append,
      List.dropWhile_append_of_pos fun c member => back c (List.mem_reverse.mp member),
      dropRightWhile]

/-- Trimming leaves the part of a text that has only blanks around it. -/
theorem trim_eq_iff {text middle : List Char} (unblanked : trim middle = middle) :
    trim text = middle ↔ ∃ before after, (∀ c ∈ before, isBlank c) ∧ (∀ c ∈ after, isBlank c) ∧
      text = before ++ middle ++ after := by
  constructor
  · rintro rfl
    refine ⟨text.takeWhile isBlank, ((text.dropWhile isBlank).reverse.takeWhile isBlank).reverse,
      fun c member => List.mem_takeWhile_imp member,
      fun c member => List.mem_takeWhile_imp (List.mem_reverse.mp member), ?_⟩
    rw [List.append_assoc, trim, dropRightWhile_append_dropped, List.takeWhile_append_dropWhile]
  · rintro ⟨before, after, front, back, rfl⟩
    rw [trim_append front back, unblanked]

/-- Trimming only takes characters away. -/
theorem trim_sublist (text : List Char) : (trim text).Sublist text :=
  (List.rdropWhile_prefix _ _).sublist.trans (List.dropWhile_sublist _)

/-- Trimming leaves the texts that neither start nor end with a blank, and only them. -/
theorem trim_eq_self_iff {text : List Char} :
    trim text = text ↔ startsBlank text = false ∧ endsBlank text = false := by
  constructor
  · intro same
    exact ⟨same ▸ startsBlank_trim text, same ▸ endsBlank_trim text⟩
  · rintro ⟨first, last⟩
    have front : text.dropWhile isBlank = text := by
      cases text with
      | nil => rfl
      | cons c rest => exact List.dropWhile_cons_of_neg (Bool.eq_false_iff.mp first)
    rw [trim, front]
    refine List.rdropWhile_eq_self_iff.mpr fun nonempty => ?_
    rw [endsBlank, List.getLast?_eq_some_getLast nonempty, Option.any_some] at last
    exact Bool.eq_false_iff.mp last

/-- Blanks are no letters. -/
theorem isAlpha_of_isBlank {c : Char} (blank : isBlank c) : c.isAlpha = false := by
  delta Char.isAlpha Char.isUpper Char.isLower
  simp [isBlank, UInt32.le_iff_toNat_le] at blank ⊢
  omega

/-- Lowercase neither makes nor removes a blank. -/
theorem isBlank_toLower (c : Char) : isBlank c.toLower = isBlank c := by
  rw [Bool.eq_iff_iff]
  constructor
  · intro blank
    have same : c = c.toLower := (Filter.toLower_eq_iff (isAlpha_of_isBlank blank) c).mp rfl
    rw [same]
    exact blank
  · intro blank
    rwa [(Filter.toLower_eq_iff (isAlpha_of_isBlank blank) c).mpr rfl]

/-- Lowercase does not matter to whether a text starts with a blank. -/
theorem startsBlank_map_toLower (text : List Char) :
    startsBlank (text.map Char.toLower) = startsBlank text := by
  rw [startsBlank, List.head?_map, Option.any_map, funext isBlank_toLower, startsBlank]

/-- Lowercase does not matter to whether a text ends in a blank. -/
theorem endsBlank_map_toLower (text : List Char) :
    endsBlank (text.map Char.toLower) = endsBlank text := by
  rw [endsBlank, List.getLast?_map, Option.any_map, funext isBlank_toLower, endsBlank]

end Text

namespace Filter

open Text (startsBlank endsBlank isBlank trim)

/-- A text is a wildcard in front of another. -/
def IsWild (text : List Char) : Prop := ∃ rest, text = '*' :: '.' :: rest

/-- A character in lowercase is no capital. -/
theorem isUpper_toLower (c : Char) : c.toLower.isUpper = false := by
  delta Char.toLower
  split
  next capital =>
    have first : 65 ≤ c.val.toNat := UInt32.le_iff_toNat_le.mp capital.1
    have last : c.val.toNat ≤ 90 := UInt32.le_iff_toNat_le.mp capital.2
    have small : (c.val + 32).toNat = c.val.toNat + 32 := by
      rw [UInt32.toNat_add, Nat.mod_eq_of_lt]
      · rfl
      · change c.val.toNat + 32 < 4294967296
        omega
    delta Char.isUpper
    refine decide_eq_false fun both => ?_
    have bound : (c.val + 32).toNat ≤ 90 := UInt32.le_iff_toNat_le.mp both.2
    omega
  next small =>
    delta Char.isUpper
    exact decide_eq_false small

/-- Lowercase keeps what is no capital. -/
theorem toLower_of_isUpper_eq_false {c : Char} (small : c.isUpper = false) : c.toLower = c := by
  delta Char.isUpper at small
  exact dif_neg (of_decide_eq_false small)

/-- The normal form is made by three steps, of which the last does not matter to blanks and
wildcards. -/
theorem normalForm_eq (text : List Char) :
    normalForm text = (dropDots (dropWildcard (trim text))).map Char.toLower := rfl

/-- A normal form does not end in a dot. -/
theorem getLast?_normalForm (text : List Char) : (normalForm text).getLast? ≠ some '.' := by
  rw [normalForm_eq, ← dropDots_map_toLower]
  exact getLast?_dropDots _

/-- A normal form has no capitals. -/
theorem isUpper_of_mem_normalForm {text : List Char} {c : Char} (member : c ∈ normalForm text) :
    c.isUpper = false := by
  obtain ⟨before, -, rfl⟩ := List.mem_map.mp member
  exact isUpper_toLower before

/-! ## Blanks in front -/

/-- Dots at the end do not matter to how a text starts, as dots are no blanks. -/
theorem startsBlank_dropDots (text : List Char) :
    startsBlank (dropDots text) = startsBlank text := by
  obtain ⟨dots, split⟩ : dropDots text <+: text := List.rdropWhile_prefix _ _
  cases kept : dropDots text with
  | cons c rest =>
    rw [← split, kept]
    rfl
  | nil =>
    cases text with
    | nil => rfl
    | cons c rest =>
      have dot := List.rdropWhile_eq_nil_iff.mp kept c List.mem_cons_self
      rw [beq_iff_eq.mp dot]
      rfl

/-- A normal form starts with a blank where there is one behind the wildcard. -/
theorem startsBlank_normalForm_iff {text : List Char} :
    startsBlank (normalForm text) ↔ ∃ c rest, trim text = '*' :: '.' :: c :: rest ∧ isBlank c := by
  have plain := Text.startsBlank_trim text
  rw [normalForm_eq, Text.startsBlank_map_toLower, startsBlank_dropDots]
  unfold dropWildcard
  split
  next rest whole =>
    cases rest with
    | nil =>
      refine iff_of_false Bool.false_ne_true ?_
      rintro ⟨c, rest, same, -⟩
      exact nomatch whole.symm.trans same
    | cons c rest =>
      constructor
      · intro blank
        exact ⟨c, rest, whole, blank⟩
      · rintro ⟨_, _, same, blank⟩
        obtain ⟨rfl, rfl⟩ : c = _ ∧ rest = _ := by simpa using whole.symm.trans same
        exact blank
  next other =>
    rw [plain]
    refine iff_of_false Bool.false_ne_true ?_
    rintro ⟨c, rest, same, -⟩
    exact other (c :: rest) same

/-! ## Blanks at the end -/

/-- A blank comes to the end when the dots behind it are dropped. -/
theorem endsBlank_dropDots_iff {text : List Char} :
    endsBlank (dropDots text) ↔
      ∃ front c dots, text = front ++ c :: dots ∧ isBlank c ∧ ∀ d ∈ dots, d = '.' := by
  constructor
  · intro ends
    obtain ⟨front, c, same, blank⟩ := Text.endsBlank_iff.mp ends
    refine ⟨front, c, (text.reverse.takeWhile (· == '.')).reverse, ?_, blank, ?_⟩
    · have split := Text.dropRightWhile_append_dropped (· == '.') text
      rw [List.append_cons, ← same]
      exact split.symm
    · intro d member
      exact beq_iff_eq.mp (List.mem_takeWhile_imp (List.mem_reverse.mp member) :)
  · rintro ⟨front, c, dots, rfl, blank, all⟩
    have other : (front ++ [c]).getLast? ≠ some '.' := by
      rw [List.getLast?_concat]
      rintro ⟨⟩
      exact nomatch blank
    rw [List.append_cons, dropDots_append all, dropDots_of_getLast? other]
    exact Text.endsBlank_iff.mpr ⟨front, c, rfl, blank⟩

/-- What has a blank in it has it behind the wildcard. -/
theorem dropWildcard_append_blank {c : Char} (blank : isBlank c) (front ending : List Char) :
    ∃ rest, dropWildcard (front ++ c :: ending) = rest ++ c :: ending := by
  unfold dropWildcard
  split
  next rest whole =>
    match front with
    | [] =>
      obtain ⟨rfl, -⟩ := List.cons.inj whole
      exact nomatch blank
    | [star] =>
      obtain ⟨-, whole⟩ := List.cons.inj whole
      obtain ⟨rfl, -⟩ := List.cons.inj whole
      exact nomatch blank
    | star :: dot :: front =>
      obtain ⟨-, whole⟩ := List.cons.inj whole
      exact ⟨front, (List.cons.inj whole).2.symm⟩
  next => exact ⟨front, rfl⟩

/-- What is behind a wildcard is an ending of the text. -/
theorem dropWildcard_suffix (text : List Char) : dropWildcard text <:+ text := by
  unfold dropWildcard
  split
  next rest => exact List.suffix_append ['*', '.'] rest
  next => exact List.suffix_rfl

/-- A normal form ends with a blank where there is one before the last dots. -/
theorem endsBlank_normalForm_iff {text : List Char} :
    endsBlank (normalForm text) ↔
      ∃ front c dots, trim text = front ++ c :: '.' :: dots ∧ isBlank c ∧ ∀ d ∈ dots, d = '.' := by
  rw [normalForm_eq, Text.endsBlank_map_toLower, endsBlank_dropDots_iff]
  constructor
  · rintro ⟨front, c, dots, same, blank, all⟩
    obtain ⟨start, whole⟩ := dropWildcard_suffix (trim text)
    rw [same, ← List.append_assoc] at whole
    cases dots with
    | nil =>
      have ends : endsBlank (trim text) :=
        Text.endsBlank_iff.mpr ⟨start ++ front, c, whole.symm, blank⟩
      exact absurd (Text.endsBlank_trim text ▸ ends) Bool.false_ne_true
    | cons d dots =>
      obtain ⟨rfl, others⟩ := List.forall_mem_cons.mp all
      exact ⟨start ++ front, c, dots, whole.symm, blank, others⟩
  · rintro ⟨front, c, dots, same, blank, all⟩
    obtain ⟨rest, kept⟩ := dropWildcard_append_blank blank front ('.' :: dots)
    refine ⟨rest, c, '.' :: dots, ?_, blank, List.forall_mem_cons.mpr ⟨rfl, all⟩⟩
    rw [same, kept]

/-! ## Wildcards -/

/-- Lowercase neither makes nor removes a wildcard. -/
theorem isWild_map_toLower_iff {text : List Char} :
    IsWild (text.map Char.toLower) ↔ IsWild text := by
  constructor
  · rintro ⟨rest, same⟩
    by_contra plain
    exact map_toLower_ne (fun rest same => plain ⟨rest, same⟩) rest same
  · rintro ⟨rest, rfl⟩
    exact ⟨rest.map Char.toLower, rfl⟩

/-- A wildcard stays in front when the last dots go, if there is more behind it than dots. -/
theorem isWild_dropDots_iff {text : List Char} :
    IsWild (dropDots text) ↔ ∃ rest, text = '*' :: '.' :: rest ∧ ∃ c ∈ rest, c ≠ '.' := by
  constructor
  · rintro ⟨start, same⟩
    obtain ⟨dots, whole⟩ : dropDots text <+: text := List.rdropWhile_prefix _ _
    rw [same] at whole
    refine ⟨start ++ dots, whole.symm, ?_⟩
    by_contra! all
    have dropped : dropDots text = ['*'] := by
      rw [← whole]
      exact dropDots_append (List.forall_mem_cons.mpr ⟨rfl, all⟩) ['*']
    exact nomatch dropped.symm.trans same
  · rintro ⟨rest, rfl, c, member, other⟩
    refine ⟨dropDots rest, dropDots_append_of_ne ?_ ['*', '.']⟩
    exact List.ne_nil_of_mem (mem_dropDots other member)

/-- A wildcard is left in front only if there were two. -/
theorem dropWildcard_eq_wild_iff {text rest : List Char} :
    dropWildcard text = '*' :: '.' :: rest ↔ text = '*' :: '.' :: '*' :: '.' :: rest := by
  constructor
  · intro same
    unfold dropWildcard at same
    split at same
    next => rw [same]
    next plain => exact absurd same (plain rest)
  · rintro rfl
    rfl

/-- A normal form has a wildcard in front where there have been two, and not only dots behind
them. -/
theorem isWild_normalForm_iff {text : List Char} :
    IsWild (normalForm text) ↔
      ∃ rest, trim text = '*' :: '.' :: '*' :: '.' :: rest ∧ ∃ c ∈ rest, c ≠ '.' := by
  rw [normalForm_eq, isWild_map_toLower_iff, isWild_dropDots_iff]
  simp only [dropWildcard_eq_wild_iff]

/-! ## Normalizing twice -/

/-- Normalizing leaves the texts that have nothing of what it removes, and only them. -/
theorem normalForm_eq_self_iff {text : List Char} :
    normalForm text = text ↔
      startsBlank text = false ∧ endsBlank text = false ∧ ¬ IsWild text ∧
        text.getLast? ≠ some '.' ∧ ∀ c ∈ text, c.isUpper = false := by
  constructor
  · intro same
    -- No step can have made the text shorter.
    have whole : text.length ≤ (dropWildcard (trim text)).length := by
      have shorter := length_normalForm_le text
      rwa [same] at shorter
    have kept : (dropWildcard (trim text)).length ≤ (trim text).length :=
      (dropWildcard_suffix _).length_le
    have trimmed : trim text = text := (Text.trim_sublist text).eq_of_length_le (whole.trans kept)
    rw [trimmed] at whole
    obtain ⟨first, last⟩ := Text.trim_eq_self_iff.mp trimmed
    refine ⟨first, last, ?_, same ▸ getLast?_normalForm text, fun c member => ?_⟩
    · rintro ⟨rest, rfl⟩
      change rest.length + 2 ≤ rest.length at whole
      omega
    · rw [← same] at member
      exact isUpper_of_mem_normalForm member
  · rintro ⟨first, last, plain, undotted, small⟩
    have lower : text.map Char.toLower = text :=
      (List.map_congr_left fun c member => toLower_of_isUpper_eq_false (small c member)).trans
        (List.map_id text)
    rw [normalForm_eq, Text.trim_eq_self_iff.mpr ⟨first, last⟩, dropWildcard_of_ne,
      dropDots_of_getLast? undotted, lower]
    exact fun rest same => plain ⟨rest, same⟩

/-- The normal form of a text has no dot at its end and no capital. It starts with a blank if the
trimmed text has one right behind a wildcard in front, it ends with a blank if the trimmed text has
one before the dots at its end, and it has a wildcard in front if the trimmed text has two, followed
by something else than dots; otherwise it does not. Normalizing again changes nothing if none of
this has been left, and only then. -/
theorem normalize_leaves (text : String) :
    let trimmed := Text.trim text.toList
    let normal := (normalize text).toList
    normal.getLast? ≠ some '.' ∧
      (∀ c ∈ normal, c.isUpper = false) ∧
      (Text.startsBlank normal ↔ ∃ c rest, trimmed = '*' :: '.' :: c :: rest ∧ Text.isBlank c) ∧
      (Text.endsBlank normal ↔
        ∃ front c dots, trimmed = front ++ c :: '.' :: dots ∧ Text.isBlank c ∧
          ∀ d ∈ dots, d = '.') ∧
      (IsWild normal ↔ ∃ rest, trimmed = '*' :: '.' :: '*' :: '.' :: rest ∧ ∃ c ∈ rest, c ≠ '.') ∧
      (normalize (normalize text) = normalize text ↔
        Text.startsBlank normal = false ∧ Text.endsBlank normal = false ∧ ¬ IsWild normal) := by
  intro trimmed normal
  have whole : normal = normalForm text.toList := String.toList_ofList
  have again : normalize (normalize text) = normalize text ↔ normalForm normal = normal := by
    rw [← String.toList_inj, normalize, String.toList_ofList]
  rw [again, normalForm_eq_self_iff, whole]
  refine ⟨getLast?_normalForm _, fun c => isUpper_of_mem_normalForm, startsBlank_normalForm_iff,
    endsBlank_normalForm_iff, isWild_normalForm_iff, ?_⟩
  constructor
  · rintro ⟨first, last, plain, -, -⟩
    exact ⟨first, last, plain⟩
  · rintro ⟨first, last, plain⟩
    exact ⟨first, last, plain, getLast?_normalForm _, fun c => isUpper_of_mem_normalForm⟩

/-- A blank before the last dot is left at the end, and normalizing again removes it. -/
theorem normalize_leaves_blank :
    normalize "a ." = "a " ∧ Text.endsBlank (normalize "a .").toList ∧
      normalize (normalize "a .") ≠ normalize "a ." := by
  decide +kernel

end Filter

end DnsForwarder
