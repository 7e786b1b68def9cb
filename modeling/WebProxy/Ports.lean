import WebProxy.Settings

/-! The port of the acceleration host: `patch_from_body` and `from_json` cut the number they are given to
sixteen bits before `validate` sees it. -/

namespace WebProxy.Settings

/-- `apply`; `save` is what writing the merged settings comes to. -/
def apply (settings : Settings) (save : Settings → Except String Unit) (patch : SettingsPatch) :
    Except String Settings :=
  match (settings.merge patch).validate with
  | .error message => .error message
  | .ok () =>
      match save (settings.merge patch) with
      | .error message => .error message
      | .ok () => .ok (settings.merge patch)

/-- The settings hold the port that was entered, also after they are loaded again, and it is the one the
daemon is sent to. -/
structure PortAsGiven (settings : Settings) (number : Nat) : Prop where
  stored : settings.accelPort = some number
  reloaded : (fromJson settings.toDiskJson).accelPort = some number
  target : ∀ accel, settings.accelDomain = some accel →
    settings.pullTarget = some (accel ++ ":" ++ toString number)

/-- A file whose port is a number loads it as this number or not at all. -/
def LoadsAsGiven (file : Json) (number : JsonNumber) : Prop :=
  ∀ port, (fromJson file).accelPort = some port → number = .posInt port

theorem apply_ok {stored merged : Settings} {save : Settings → Except String Unit} {patch : SettingsPatch}
    (applied : stored.apply save patch = .ok merged) :
    merged = stored.merge patch ∧ merged.validate = .ok () := by
  unfold apply at applied
  split at applied
  · cases applied
  · rename_i valid
    split at applied
    · cases applied
    · cases applied
      exact ⟨rfl, valid⟩

theorem portAt_number {value : Json} {number : Nat}
    (given : value.get "accel_port" = some (.number (.posInt number))) :
    portAt value = if number < 2 ^ 64 then some (number % 2 ^ 16) else none := by
  rw [portAt, given, Option.bind_some, Json.asU64]
  by_cases fits : number < 2 ^ 64
  · rw [if_pos fits, if_pos fits, Option.map_some]
  · rw [if_neg fits, if_neg fits, Option.map_none]

theorem merged_port_lt {stored : Settings} (word : ∀ port, stored.accelPort = some port → port < 2 ^ 16)
    (body : Json) {port : Nat} (held : (stored.merge (patchFromBody body)).accelPort = some port) :
    port < 2 ^ 16 := by
  rcases Option.or_eq_some_iff.mp held with patched | ⟨_, kept⟩
  · exact portAt_lt patched
  · exact word port kept

theorem portAsGiven_iff {body : Json} {number : Nat} {stored merged : Settings}
    {save : Settings → Except String Unit}
    (given : body.get "accel_port" = some (.number (.posInt number)))
    (word : ∀ port, stored.accelPort = some port → port < 2 ^ 16)
    (applied : stored.apply save (patchFromBody body) = .ok merged) :
    PortAsGiven merged number ↔ number ≤ 65535 := by
  obtain ⟨rfl, _⟩ := apply_ok applied
  constructor
  · intro held
    have small := merged_port_lt word body held.stored
    omega
  · intro small
    have patched : (patchFromBody body).accelPort = some number := by
      change portAt body = some number
      rw [portAt_number given, if_pos (by omega), Nat.mod_eq_of_lt (by omega)]
    have port : (stored.merge (patchFromBody body)).accelPort = some number := by
      change (patchFromBody body).accelPort.or stored.accelPort = some number
      rw [patched, Option.some_or]
    have reloaded : (fromJson (stored.merge (patchFromBody body)).toDiskJson).accelPort = some number :=
      (portJson_read (fun _ => merged_port_lt word body)).trans port
    refine ⟨port, reloaded, ?_⟩
    intro accel named
    rw [pullTarget, named, port, Option.map_some]

theorem loadsAsGiven_iff {file : Json} {number : Nat}
    (given : file.get "accel_port" = some (.number (.posInt number))) :
    LoadsAsGiven file (.posInt number) ↔ number ≤ 65535 ∨ 2 ^ 64 ≤ number := by
  constructor
  · intro loads
    by_contra large
    rw [not_or, Nat.not_le, Nat.not_le] at large
    have cut : (fromJson file).accelPort = some (number % 2 ^ 16) := by
      change portAt file = _
      rw [portAt_number given, if_pos large.2]
    have same := JsonNumber.posInt.inj (loads _ cut)
    omega
  · intro small port loaded
    change portAt file = some port at loaded
    rw [portAt_number given] at loaded
    by_cases fits : number < 2 ^ 64
    · have low := small.resolve_right (by omega)
      rw [if_pos fits, Nat.mod_eq_of_lt (by omega), Option.some.injEq] at loaded
      rw [loaded]
    · rw [if_neg fits] at loaded
      cases loaded

theorem other_number_unloaded {file : Json} {number : JsonNumber}
    (given : file.get "accel_port" = some (.number number)) (other : ∀ value, number ≠ .posInt value) :
    (fromJson file).accelPort = none := by
  change portAt file = none
  rw [portAt, given]
  cases number with
  | posInt value => exact absurd rfl (other value)
  | negInt value => rfl
  | float => rfl

/-- An integer in a body that is applied is stored as it is exactly where a port can be that integer, and
in a file it is loaded as it is or not at all exactly where it is such a number or none of 64 bits. Other
numbers are not loaded. -/
theorem port_as_given_iff (number : Nat) :
    (∀ (body : Json) (stored merged : Settings) (save : Settings → Except String Unit),
      body.get "accel_port" = some (.number (.posInt number)) →
      (∀ port, stored.accelPort = some port → port < 2 ^ 16) →
      stored.apply save (patchFromBody body) = .ok merged →
      (PortAsGiven merged number ↔ number ≤ 65535) ∧ (PortAsGiven merged number → 1 ≤ number)) ∧
    (∀ file : Json, file.get "accel_port" = some (.number (.posInt number)) →
      (LoadsAsGiven file (.posInt number) ↔ number ≤ 65535 ∨ 2 ^ 64 ≤ number)) ∧
    ∀ (file : Json) (other : JsonNumber), file.get "accel_port" = some (.number other) →
      (∀ value, other ≠ .posInt value) → (fromJson file).accelPort = none := by
  refine ⟨?_, fun file given => loadsAsGiven_iff given, fun file other given => other_number_unloaded given⟩
  intro body stored merged save given word applied
  refine ⟨portAsGiven_iff given word applied, ?_⟩
  intro held
  by_contra zero
  have none_left : number = 0 := by omega
  exact (validate_ok (apply_ok applied).2).2.2.2 (none_left ▸ held.stored)

def portBody (number : Nat) : Json :=
  .object [("accel_domain", .string "docker.master.us.kg"), ("accel_port", .number (.posInt number))]

def portSettings (port : Nat) : Settings :=
  { default with accelDomain := some "docker.master.us.kg", accelPort := some port }

theorem port_as_given_https :
    PortAsGiven (portSettings 443) 443 ∧ LoadsAsGiven (portBody 443) (.posInt 443) ∧
      (fromJson (.object [("accel_port", .number .float)])).accelPort = none := by
  have applied : default.apply (fun _ => .ok ()) (patchFromBody (portBody 443)) = .ok (portSettings 443) := by
    decide +kernel
  have kept := port_as_given_iff 443
  have body := kept.1 (portBody 443) default (portSettings 443) (fun _ => .ok ()) rfl (by simp [default]) applied
  have file := kept.2.1 (portBody 443) rfl
  exact ⟨body.1.mpr (by decide), file.mpr (Or.inl (by decide)), kept.2.2 _ .float rfl (by simp)⟩

/-- 65979 is entered and 443 is stored, loaded and given to the daemon. -/
theorem port_cut :
    (portBody 65979).get "accel_port" = some (.number (.posInt 65979)) ∧
    default.apply (fun _ => .ok ()) (patchFromBody (portBody 65979)) = .ok (portSettings 443) ∧
    (portSettings 443).pullTarget = some "docker.master.us.kg:443" ∧
    ¬ PortAsGiven (portSettings 443) 65979 ∧ ¬ LoadsAsGiven (portBody 65979) (.posInt 65979) := by
  refine ⟨rfl, by decide +kernel, by decide +kernel, ?_, ?_⟩
  · intro held
    exact absurd held.stored (by decide)
  · intro loads
    exact absurd (loads 443 (by decide +kernel)) (by decide)

end WebProxy.Settings
