import ClusterOperator.Settings

/-!
# Settings and the white space around them

Every setting is read from a variable of its own. Numbers are read after the white space around them
is cut off, and where no number of 64 bits is left the default stands. The domain of the cluster is
taken as it is, unless it is empty: white space around it is kept, and white space alone is a
domain. So the settings are those of the environment in which all texts are trimmed, provided that
the text of the domain is trimmed already.

## Main definitions

* `Text.trimmed`: a text without the white space around it.
* `Text.IsNumeral`: digits, and a plus sign before them or not.
* `Settings.numbers`: the settings that are numbers.
* `Settings.trimmedEnvironment`: an environment with all texts trimmed.

## Main results

* `Text.trim_eq_self_iff`: which texts have no white space around them.
* `Text.unsigned?_eq_some_iff`: which texts are read as numbers.
* `Settings.ofLookup_spaces`: what each setting is, and when white space makes a difference.
-/

namespace ClusterOperator

/-! ### Trimmed texts and numerals -/

namespace Text

/-- A text without the white space around it. -/
def trimmed (s : String) : String := String.ofList (trim s.toList)

theorem toList_trimmed (s : String) : (trimmed s).toList = trim s.toList := String.toList_ofList

theorem trimmed_trimmed (s : String) : trimmed (trimmed s) = trimmed s := by
  rw [trimmed, toList_trimmed, trim_trim, trimmed]

theorem trimLeft_eq_self_iff {cs : List Char} :
    trimLeft cs = cs ↔ ∀ c ∈ cs.head?, isBlank c = false := by
  cases cs with
  | nil => exact iff_of_true rfl nofun
  | cons c cs =>
    have hhead : (∀ d ∈ (c :: cs).head?, isBlank d = false) ↔ isBlank c = false := by simp
    rw [hhead]
    cases hc : isBlank c with
    | false => exact iff_of_true (List.dropWhile_cons_of_neg (by simp [hc])) rfl
    | true =>
      refine iff_of_false (fun heq => ?_) nofun
      have hshorter : (trimLeft (c :: cs)).length ≤ cs.length := by
        rw [trimLeft, List.dropWhile_cons_of_pos hc]
        exact (List.dropWhile_sublist isBlank).length_le
      rw [heq, List.length_cons] at hshorter
      omega

/-- Nothing is cut off where a text neither begins nor ends with white space. -/
theorem trim_eq_self_iff {cs : List Char} :
    trim cs = cs ↔
      (∀ c ∈ cs.head?, isBlank c = false) ∧ ∀ c ∈ cs.getLast?, isBlank c = false := by
  have hright : trimRight cs = cs ↔ ∀ c ∈ cs.getLast?, isBlank c = false := by
    rw [trimRight_eq, List.reverse_eq_iff, trimLeft_eq_self_iff, List.head?_reverse]
  rw [← trimLeft_eq_self_iff, ← hright]
  constructor
  · intro h
    have hleft : trimLeft cs = cs := by
      rw [← h]
      exact trimLeft_trimRight_trimLeft cs
    refine ⟨hleft, ?_⟩
    rw [← h]
    exact trimRight_trimRight _
  · rintro ⟨hleft, hright⟩
    rw [trim, hleft, hright]

theorem trimmed_eq_self_iff {s : String} :
    trimmed s = s ↔ (∀ c ∈ s.toList.head?, isBlank c = false) ∧
      ∀ c ∈ s.toList.getLast?, isBlank c = false := by
  rw [← trim_eq_self_iff, ← toList_trimmed, String.toList_inj]

/-- One or more digits, and a plus sign before them or not, stand for a number. -/
def IsNumeral (cs : List Char) (n : Nat) : Prop :=
  ∃ digits, (cs = digits ∨ cs = '+' :: digits) ∧ digits ≠ [] ∧
    (∀ c ∈ digits, c.isDigit = true) ∧ Nat.ofDigitChars 10 digits 0 = n

theorem natural?_eq_some_iff {cs : List Char} {n : Nat} :
    natural? cs = some n ↔
      cs ≠ [] ∧ (∀ c ∈ cs, c.isDigit = true) ∧ Nat.ofDigitChars 10 cs 0 = n := by
  unfold natural?
  by_cases hempty : cs = []
  · simp [hempty]
  · by_cases hdigits : cs.all Char.isDigit = true
    · have hall := List.all_eq_true.mp hdigits
      rw [if_neg (by simpa using hempty), if_pos hdigits, Option.some_inj]
      exact ⟨fun h => ⟨hempty, hall, h⟩, fun h => h.2.2⟩
    · have hother : ¬ ∀ c ∈ cs, c.isDigit = true := fun h => hdigits (List.all_eq_true.mpr h)
      simp [hempty, hdigits, hother]

/-- What follows a plus sign, or a text without one, is what the digits are taken from. -/
theorem afterPlus_eq_iff {cs digits : List Char} (h : ∀ c ∈ digits, c.isDigit = true) :
    afterPlus cs = digits ↔ cs = digits ∨ cs = '+' :: digits := by
  have hplus : ∀ rest, digits ≠ '+' :: rest := fun rest heq =>
    absurd (h '+' (heq ▸ List.mem_cons_self)) (by decide)
  unfold afterPlus
  split
  · next rest =>
    simp [(hplus rest).symm]
  · next hnot =>
    exact ⟨.inl, fun h => h.resolve_right fun heq => hnot digits heq⟩

/-- A text is read as a number if it is a numeral whose value is not too large. -/
theorem unsigned?_eq_some_iff {limit : Nat} {cs : List Char} {n : Nat} :
    unsigned? limit cs = some n ↔ IsNumeral cs n ∧ n ≤ limit := by
  rw [unsigned?, Option.filter_eq_some_iff, natural?_eq_some_iff, decide_eq_true_iff]
  refine and_congr_left fun _ => ?_
  constructor
  · rintro ⟨hne, hdigits, hvalue⟩
    exact ⟨_, (afterPlus_eq_iff hdigits).mp rfl, hne, hdigits, hvalue⟩
  · rintro ⟨digits, hcs, hne, hdigits, hvalue⟩
    rw [(afterPlus_eq_iff hdigits).mpr hcs]
    exact ⟨hne, hdigits, hvalue⟩

end Text

namespace Settings

variable {lookup other : String → Option String}

/-! ### Numbers -/

/-- A setting that is a number. -/
structure Numeric where
  /-- The variable from which it is read. -/
  key : String
  /-- What it is where no number can be read. -/
  default : Nat
  /-- What it is at least. -/
  least : Nat
  /-- What is set. -/
  value : Settings → Nat

/-- The settings that are numbers. -/
def numbers : List Numeric :=
  [⟨"NACOS_OPERATOR_RESYNC_SECONDS", 30, 0, resync⟩,
    ⟨"NACOS_OPERATOR_ERROR_REQUEUE_SECONDS", 60, 0, errorRequeue⟩,
    ⟨"NACOS_OPERATOR_HEALTH_TIMEOUT_SECONDS", 5, 0, healthTimeout⟩,
    ⟨"NACOS_OPERATOR_HEALTH_CONCURRENCY", 4, 1, healthConcurrency⟩,
    ⟨"NACOS_OPERATOR_HEAL_TIMEOUT_SECONDS", 10, 0, healTimeout⟩]

/-- A number is read from its own variable. -/
theorem value_eq {f : Numeric} (hf : f ∈ numbers) (lookup : String → Option String) :
    f.value (ofLookup lookup) = max f.least (((lookup f.key).bind readNumber).getD f.default) := by
  simp only [numbers, List.mem_cons, List.not_mem_nil, or_false] at hf
  rcases hf with rfl | rfl | rfl | rfl | rfl
  case inr.inr.inr.inl => rfl
  all_goals exact (Nat.zero_max _).symm

theorem readNumber_eq_some_iff {text : String} {n : Nat} :
    readNumber text = some n ↔
      Text.IsNumeral (Text.trim text.toList) n ∧ n ≤ Text.maxUnsigned64 :=
  Text.unsigned?_eq_some_iff

theorem readNumber_trimmed (text : String) : readNumber (Text.trimmed text) = readNumber text := by
  rw [readNumber, Text.toList_trimmed, Text.trim_trim, readNumber]

/-! ### The domain -/

/-- The variable of the domain of the cluster. -/
def domainKey : String := "NACOS_OPERATOR_CLUSTER_DOMAIN"

theorem clusterDomain_eq (lookup : String → Option String) :
    (ofLookup lookup).clusterDomain =
      ((lookup domainKey).filter fun s => !s.isEmpty).getD "cluster.local" := rfl

/-- The domain is a text that is set and not empty, or the default. -/
theorem clusterDomain_cases (lookup : String → Option String) :
    (∃ text, lookup domainKey = some text ∧ text ≠ "" ∧
      (ofLookup lookup).clusterDomain = text) ∨
    ((∀ text, lookup domainKey = some text → text = "") ∧
      (ofLookup lookup).clusterDomain = "cluster.local") := by
  rw [clusterDomain_eq]
  cases hlookup : lookup domainKey with
  | none => exact .inr ⟨nofun, rfl⟩
  | some text =>
    by_cases hempty : text = ""
    · rw [hempty]
      exact .inr ⟨fun _ h => (Option.some.inj h).symm, rfl⟩
    · rw [Option.filter_some_pos (by simpa using hempty)]
      exact .inl ⟨text, rfl, hempty, rfl⟩

/-! ### Trimmed environments -/

/-- An environment in which all texts are trimmed. -/
def trimmedEnvironment (lookup : String → Option String) : String → Option String :=
  fun key => (lookup key).map Text.trimmed

/-- Settings are the same if their numbers and the domain are. -/
theorem ext_numbers {s t : Settings} (numeric : ∀ f ∈ numbers, f.value s = f.value t)
    (domain : s.clusterDomain = t.clusterDomain) : s = t := by
  simp only [numbers, List.forall_mem_cons, List.not_mem_nil, false_imp_iff, implies_true,
    and_true] at numeric
  obtain ⟨hresync, hrequeue, htimeout, hconcurrency, hheal⟩ := numeric
  cases s
  cases t
  simp_all only

/-- The text of the domain, if it is set, is trimmed. -/
def DomainTrimmed (lookup : String → Option String) : Prop :=
  ∀ text, lookup domainKey = some text → Text.trimmed text = text

/-- The domain is trimmed if its text is. -/
theorem trimmed_clusterDomain_iff :
    Text.trimmed (ofLookup lookup).clusterDomain = (ofLookup lookup).clusterDomain ↔
      DomainTrimmed lookup := by
  rcases clusterDomain_cases lookup with ⟨text, htext, -, hdomain⟩ | ⟨hunset, hdomain⟩
  · rw [hdomain]
    refine ⟨fun h other hother => ?_, fun h => h text htext⟩
    rw [htext] at hother
    exact Option.some.inj hother ▸ h
  · rw [hdomain]
    refine iff_of_true (by decide) fun text htext => ?_
    rw [hunset text htext]
    rfl

theorem domainTrimmed_trimmedEnvironment (lookup : String → Option String) :
    DomainTrimmed (trimmedEnvironment lookup) := by
  intro text htext
  obtain ⟨raw, -, rfl⟩ := Option.map_eq_some_iff.mp htext
  exact Text.trimmed_trimmed raw

/-- Trimming all texts makes no difference to a domain whose text is trimmed. -/
theorem clusterDomain_trimmedEnvironment (h : DomainTrimmed lookup) :
    (ofLookup (trimmedEnvironment lookup)).clusterDomain = (ofLookup lookup).clusterDomain := by
  have hsame : trimmedEnvironment lookup domainKey = lookup domainKey := by
    rw [trimmedEnvironment]
    cases hlookup : lookup domainKey with
    | none => rfl
    | some text => exact congrArg some (h text hlookup)
  rw [clusterDomain_eq, clusterDomain_eq, hsame]

/-! ### All settings -/

/-- How a number is read: from its own variable, in which white space around it does not matter. It
has its default if the variable is not set or what is left of its text is no number of 64 bits. -/
structure ReadsNumber (lookup : String → Option String) (f : Numeric) : Prop where
  read : ∀ text n, lookup f.key = some text → Text.IsNumeral (Text.trim text.toList) n →
    n ≤ Text.maxUnsigned64 → f.value (ofLookup lookup) = max f.least n
  unread : (∀ text n, lookup f.key = some text → Text.IsNumeral (Text.trim text.toList) n →
    ¬ n ≤ Text.maxUnsigned64) → f.value (ofLookup lookup) = f.default
  least_le : f.least ≤ f.value (ofLookup lookup)
  own : ∀ other, other f.key = lookup f.key → f.value (ofLookup other) = f.value (ofLookup lookup)
  trimmed : f.value (ofLookup (trimmedEnvironment lookup)) = f.value (ofLookup lookup)

/-- How the domain is read: as it stands in its own variable, unless nothing stands there. -/
structure ReadsDomain (lookup : String → Option String) : Prop where
  read : ∀ text, lookup domainKey = some text → text ≠ "" → (ofLookup lookup).clusterDomain = text
  unread : (∀ text, lookup domainKey = some text → text = "") →
    (ofLookup lookup).clusterDomain = "cluster.local"
  nonempty : (ofLookup lookup).clusterDomain ≠ ""
  own : ∀ other, other domainKey = lookup domainKey →
    (ofLookup other).clusterDomain = (ofLookup lookup).clusterDomain

theorem readsNumber {f : Numeric} (hf : f ∈ numbers) (lookup : String → Option String) :
    ReadsNumber lookup f := by
  have hdefault : max f.least f.default = f.default := by
    revert f
    decide
  constructor
  case read =>
    intro text n htext hn hle
    rw [value_eq hf, htext, Option.bind_some, readNumber_eq_some_iff.mpr ⟨hn, hle⟩,
      Option.getD_some]
  case unread =>
    intro hnone
    have hread : (lookup f.key).bind readNumber = none := by
      rw [Option.bind_eq_none_iff]
      intro text htext
      rw [Option.eq_none_iff_forall_ne_some]
      intro n hn
      obtain ⟨hn, hle⟩ := readNumber_eq_some_iff.mp hn
      exact hnone text n htext hn hle
    rw [value_eq hf, hread, Option.getD_none, hdefault]
  case least_le =>
    rw [value_eq hf]
    exact Nat.le_max_left _ _
  case own =>
    intro other hsame
    rw [value_eq hf, value_eq hf, hsame]
  case trimmed =>
    rw [value_eq hf, value_eq hf, trimmedEnvironment]
    cases lookup f.key with
    | none => rfl
    | some text =>
      rw [Option.map_some, Option.bind_some, Option.bind_some, readNumber_trimmed]

theorem readsDomain (lookup : String → Option String) : ReadsDomain lookup := by
  constructor
  case read =>
    intro text htext hne
    rcases clusterDomain_cases lookup with ⟨_, hset, -, hdomain⟩ | ⟨hunset, -⟩
    · rw [hdomain]
      exact Option.some.inj (hset.symm.trans htext)
    · exact absurd (hunset text htext) hne
  case unread =>
    intro hunset
    rcases clusterDomain_cases lookup with ⟨text, hset, hne, -⟩ | ⟨-, hdomain⟩
    · exact absurd (hunset text hset) hne
    · exact hdomain
  case nonempty =>
    rcases clusterDomain_cases lookup with ⟨text, -, hne, hdomain⟩ | ⟨-, hdomain⟩
    · rw [hdomain]
      exact hne
    · rw [hdomain]
      decide
  case own =>
    intro other hsame
    rw [clusterDomain_eq, clusterDomain_eq, hsame]

/-- Every setting is read from its own variable. White space around the numbers makes no difference,
but around the domain it does: the settings are those of the trimmed environment, and the domain has
no white space at its ends, exactly if the text of the domain, where it is set, has none. -/
theorem ofLookup_spaces (lookup : String → Option String) :
    (∀ f ∈ numbers, ReadsNumber lookup f) ∧ ReadsDomain lookup ∧
    (ofLookup (trimmedEnvironment lookup) = ofLookup lookup ↔ DomainTrimmed lookup) ∧
    (((∀ c ∈ (ofLookup lookup).clusterDomain.toList.head?, Text.isBlank c = false) ∧
      ∀ c ∈ (ofLookup lookup).clusterDomain.toList.getLast?, Text.isBlank c = false) ↔
        DomainTrimmed lookup) := by
  refine ⟨fun f hf => readsNumber hf lookup, readsDomain lookup, ⟨fun heq => ?_, fun h => ?_⟩, ?_⟩
  · rw [← trimmed_clusterDomain_iff, ← heq]
    exact trimmed_clusterDomain_iff.mpr (domainTrimmed_trimmedEnvironment lookup)
  · exact ext_numbers (fun f hf => (readsNumber hf lookup).trimmed)
      (clusterDomain_trimmedEnvironment h)
  · rw [← Text.trimmed_eq_self_iff]
    exact trimmed_clusterDomain_iff

/-- An environment with white space around a number and around the domain. -/
def spacedSample (key : String) : Option String :=
  if key = "NACOS_OPERATOR_RESYNC_SECONDS" then some " 15 "
  else if key = domainKey then some " k8s.internal " else none

theorem spacedSample_keeps_spaces :
    (ofLookup spacedSample).resync = 15 ∧ (ofLookup spacedSample).clusterDomain = " k8s.internal " ∧
      ofLookup (trimmedEnvironment spacedSample) ≠ ofLookup spacedSample := by
  obtain ⟨hnumbers, hdomain, hsame, -⟩ := ofLookup_spaces spacedSample
  have hresync := hnumbers ⟨"NACOS_OPERATOR_RESYNC_SECONDS", 30, 0, resync⟩ List.mem_cons_self
  refine ⟨hresync.read " 15 " 15 rfl ⟨['1', '5'], .inl rfl, by decide,
      List.all_eq_true.mp (by decide), rfl⟩ (by decide),
    hdomain.read " k8s.internal " rfl (by decide), fun heq => ?_⟩
  exact absurd (hsame.mp heq " k8s.internal " rfl) (by decide)

end Settings

end ClusterOperator
