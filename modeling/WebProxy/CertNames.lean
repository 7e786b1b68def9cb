import Mathlib.Data.List.Nodup
import WebProxy.CertJob

/-! The names `issue_cert_job` asks a certificate for, and the hosts they cover. -/

namespace WebProxy.CertJob

def endsWith (text tail : String) : Bool := tail.toList.isSuffixOf text.toList

def pushNew (names : List String) (name : String) : List String :=
  if names.contains name then names else names ++ [name]

/-- The apex and the wildcard, the acceleration host unless it ends with the domain, and the git host. -/
def certNames (domain : String) (accelDomain : Option String) : List String :=
  let names := [domain, "*." ++ domain]
  let named := match accelDomain with
    | some extra => if !endsWith extra domain && !names.contains extra then names ++ [extra] else names
    | none => names
  pushNew named ("git." ++ domain)

def acmeCommand (order : Order) : List String :=
  ["--issue", "--dns", "dns_cf", "--server", "letsencrypt", "--keylength", "ec-256", "--cert-home",
    "/certs"] ++ (certNames order.domain order.accelDomain).flatMap (fun name => ["-d", name])

/-- A host is one label below a domain. -/
def OneBelow (host domain : String) : Prop :=
  ∃ label : String, label ≠ "" ∧ '.' ∉ label.toList ∧ host = label ++ "." ++ domain

/-- A name of a certificate stands for a host: the host itself, or a wildcard for one label. -/
def Stands (name host : String) : Prop :=
  name = host ∨ ∃ domain, name = "*." ++ domain ∧ OneBelow host domain

structure Covers (names : List String) (host : String) : Prop where
  nodup : names.Nodup
  stands : ∃ name ∈ names, Stands name host

theorem star_not_mem {text : String} (clean : Settings.badName text.toList = false) : '*' ∉ text.toList := by
  intro member
  unfold Settings.badName at clean
  simp only [Bool.or_eq_false_iff, Bool.not_eq_false', List.all_eq_true] at clean
  exact absurd (clean.2 '*' member) (by decide)

theorem pushNew_nodup {names : List String} (nodup : names.Nodup) (name : String) :
    (pushNew names name).Nodup := by
  rw [pushNew]
  by_cases present : names.contains name = true
  · rw [if_pos present]
    exact nodup
  · rw [if_neg present]
    rw [List.contains_iff_mem] at present
    exact List.nodup_append.mpr ⟨nodup, List.nodup_singleton name, by
      intro old member new single
      rw [List.mem_singleton.mp single]
      rintro rfl
      exact present member⟩

theorem mem_pushNew {names : List String} {name other : String} :
    other ∈ pushNew names name ↔ other ∈ names ∨ other = name := by
  rw [pushNew]
  by_cases present : names.contains name = true
  · rw [if_pos present]
    rw [List.contains_iff_mem] at present
    constructor
    · intro member
      exact Or.inl member
    · rintro (member | rfl)
      · exact member
      · exact present
  · rw [if_neg present, List.mem_append, List.mem_singleton]

theorem certNames_eq (domain accel : String) : certNames domain (some accel) =
    pushNew (if endsWith accel domain then [domain, "*." ++ domain]
      else pushNew [domain, "*." ++ domain] accel) ("git." ++ domain) := by
  have extra : ∀ names : List String,
      (if !endsWith accel domain && !names.contains accel then names ++ [accel] else names) =
        if endsWith accel domain then names else pushNew names accel := by
    intro names
    rw [pushNew]
    cases endsWith accel domain with
    | true => rfl
    | false =>
        cases names.contains accel with
        | true => rfl
        | false => rfl
  exact congrArg (fun names => pushNew names ("git." ++ domain)) (extra [domain, "*." ++ domain])

theorem mem_certNames {domain accel name : String} : name ∈ certNames domain (some accel) ↔
    name = domain ∨ name = "*." ++ domain ∨ (endsWith accel domain = false ∧ name = accel) ∨
      name = "git." ++ domain := by
  rw [certNames_eq, mem_pushNew]
  cases endsWith accel domain with
  | true => simp [or_assoc]
  | false => simp [mem_pushNew, or_assoc]

theorem certNames_nodup (domain accel : String) : (certNames domain (some accel)).Nodup := by
  have different : domain ≠ "*." ++ domain := by
    intro same
    have lengths := congrArg String.length same
    rw [String.length_append] at lengths
    have two : "*.".length = 2 := by decide
    omega
  have start : [domain, "*." ++ domain].Nodup := by
    rw [List.nodup_cons, List.mem_singleton]
    exact ⟨different, List.nodup_singleton _⟩
  rw [certNames_eq]
  apply pushNew_nodup
  split
  · exact start
  · exact pushNew_nodup start accel

theorem not_wildcard {text domain : String} (clean : Settings.badName text.toList = false) :
    text ≠ "*." ++ domain := by
  rintro rfl
  exact star_not_mem clean (by simp)

theorem stands_accel_iff {domain accel : String} (domain_clean : Settings.badName domain.toList = false)
    (accel_clean : Settings.badName accel.toList = false) :
    (∃ name ∈ certNames domain (some accel), Stands name accel) ↔
      endsWith accel domain = false ∨ accel = domain ∨ OneBelow accel domain := by
  constructor
  · rintro ⟨name, member, stands⟩
    rcases mem_certNames.mp member with rfl | rfl | ⟨outside, _⟩ | rfl
    · rcases stands with same | ⟨wild, spelled, _⟩
      · exact Or.inr (Or.inl same.symm)
      · exact absurd spelled (not_wildcard domain_clean)
    · rcases stands with same | ⟨wild, spelled, below⟩
      · exact absurd same.symm (not_wildcard accel_clean)
      · have same : domain = wild := String.append_right_inj _ |>.mp spelled
        exact Or.inr (Or.inr (same ▸ below))
    · exact Or.inl outside
    · rcases stands with same | ⟨wild, spelled, _⟩
      · exact Or.inr (Or.inr ⟨"git", by decide, by decide, same.symm⟩)
      · have letters := congrArg String.toList spelled
        simp at letters
  · rintro (outside | rfl | below)
    · exact ⟨accel, mem_certNames.mpr (Or.inr (Or.inr (Or.inl ⟨outside, rfl⟩))), Or.inl rfl⟩
    · exact ⟨accel, mem_certNames.mpr (Or.inl rfl), Or.inl rfl⟩
    · exact ⟨"*." ++ domain, mem_certNames.mpr (Or.inr (Or.inl rfl)), Or.inr ⟨domain, rfl, below⟩⟩

/-- The certificate covers the acceleration host exactly where the host does not end with the text of the
domain, or is the domain, or is one label below it. -/
theorem cert_covers_accel_iff (settings : Settings) (domain accel : String)
    (valid : settings.validate = .ok ()) (apex : settings.domain = some domain)
    (extra : settings.accelDomain = some accel) :
    Covers (certNames domain (some accel)) accel ↔
      endsWith accel domain = false ∨ accel = domain ∨ OneBelow accel domain := by
  obtain ⟨domains, accels, _⟩ := Settings.validate_ok valid
  rw [← stands_accel_iff (domains domain apex) (accels accel extra)]
  constructor
  · intro covers
    exact covers.stands
  · intro stands
    exact ⟨certNames_nodup domain accel, stands⟩

theorem acmeCommand_of_settings {settings : Settings} {order : Order} (ordered : orderOf settings = some order) :
    ∃ domain, settings.domain = some domain ∧
      ∀ name, name ∈ certNames domain settings.accelDomain → ["-d", name] <:+: acmeCommand order := by
  unfold orderOf at ordered
  split at ordered
  · rename_i domain token zone account apex _ _ _
    split at ordered
    · cases ordered
      refine ⟨domain, apex, ?_⟩
      intro name member
      obtain ⟨front, back, shape⟩ := List.append_of_mem member
      rw [acmeCommand, shape, List.flatMap_append, List.flatMap_cons, ← List.append_assoc]
      exact List.infix_append' _ _ _
    · cases ordered
  · cases ordered

def hostSettings (accel : String) : Settings :=
  { Settings.default with domain := some "master.us.kg", accelDomain := some accel }

theorem cert_covers_accel_below :
    Covers (certNames "master.us.kg" (some "docker.master.us.kg")) "docker.master.us.kg" :=
  (cert_covers_accel_iff (hostSettings "docker.master.us.kg") "master.us.kg" "docker.master.us.kg"
    (by decide +kernel) rfl rfl).mpr (Or.inr (Or.inr ⟨"docker", by decide, by decide, by decide⟩))

/-- A host two labels below the domain, and one that ends with its text only: both pass the checks and no
name is requested that stands for them. -/
theorem cert_misses_accel :
    ((hostSettings "eu.docker.master.us.kg").validate = .ok () ∧
      certNames "master.us.kg" (some "eu.docker.master.us.kg") =
        ["master.us.kg", "*.master.us.kg", "git.master.us.kg"] ∧
      ¬ Covers (certNames "master.us.kg" (some "eu.docker.master.us.kg")) "eu.docker.master.us.kg") ∧
    (hostSettings "webmaster.us.kg").validate = .ok () ∧
      certNames "master.us.kg" (some "webmaster.us.kg") =
        ["master.us.kg", "*.master.us.kg", "git.master.us.kg"] ∧
      ¬ Covers (certNames "master.us.kg" (some "webmaster.us.kg")) "webmaster.us.kg" := by
  have missed : ∀ accel : String, Settings.badName accel.toList = false → endsWith accel "master.us.kg" = true →
      accel ≠ "master.us.kg" → ¬ OneBelow accel "master.us.kg" →
      ¬ Covers (certNames "master.us.kg" (some accel)) accel := by
    intro accel clean ends different below covers
    rcases (stands_accel_iff (by decide +kernel) clean).mp covers.stands with outside | same | one
    · rw [ends] at outside
      cases outside
    · exact different same
    · exact below one
  refine ⟨⟨by decide +kernel, by decide +kernel, ?_⟩, by decide +kernel, by decide +kernel, ?_⟩
  · refine missed _ (by decide +kernel) (by decide +kernel) (by decide) ?_
    rintro ⟨label, _, single, spelled⟩
    have letters : "eu.docker".toList ++ ".master.us.kg".toList = label.toList ++ ".master.us.kg".toList := by
      have whole := congrArg String.toList spelled
      simpa using whole
    rw [← List.append_cancel_right letters] at single
    exact single (by decide)
  · refine missed _ (by decide +kernel) (by decide +kernel) (by decide) ?_
    rintro ⟨label, _, _, spelled⟩
    have letters : "we".toList ++ "bmaster.us.kg".toList = label.toList ++ ".master.us.kg".toList := by
      have whole := congrArg String.toList spelled
      simpa using whole
    have tails := (List.append_inj' letters (by decide)).2
    exact absurd tails (by decide)

end WebProxy.CertJob
