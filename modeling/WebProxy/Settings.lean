import Mathlib.Data.List.Basic
import Mathlib.Data.List.Infix
import WebProxy.Library.Json
import WebProxy.Library.Text

/-! The record of `settings.rs`: how it is read, patched, checked and written. -/

namespace WebProxy

structure Settings where
  domain : Option String
  accelDomain : Option String
  accelPort : Option Nat
  lanIp : Option String
  cfToken : Option String
  cfZoneId : Option String
  cfAccountId : Option String
  deriving DecidableEq, Repr

structure SettingsPatch where
  domain : Option String
  accelDomain : Option String
  accelPort : Option Nat
  lanIp : Option String
  cfToken : Option String
  cfZoneId : Option String
  cfAccountId : Option String
  deriving DecidableEq, Repr

namespace Settings

def default : Settings := ⟨none, none, none, none, none, none, none⟩

/-- `value.get("accel_port")` as a `u64`, cut to a `u16`. -/
def portAt (value : Json) : Option Nat :=
  ((value.get "accel_port").bind Json.asU64).map (· % 2 ^ 16)

def storedText (value : Json) (key : String) : Option String :=
  (value.textAt key).filter (· ≠ "")

def fromJson (value : Json) : Settings where
  domain := storedText value "domain"
  accelDomain := storedText value "accel_domain"
  accelPort := portAt value
  lanIp := storedText value "lan_ip"
  cfToken := storedText value "cf_token"
  cfZoneId := storedText value "cf_zone_id"
  cfAccountId := storedText value "cf_account_id"

def trimText (text : String) : String := String.ofList (Text.trim text.toList)

def patchText (body : Json) (key : String) : Option String :=
  ((body.textAt key).map trimText).filter (· ≠ "")

def patchFromBody (body : Json) : SettingsPatch where
  domain := patchText body "domain"
  accelDomain := patchText body "accel_domain"
  accelPort := portAt body
  lanIp := patchText body "lan_ip"
  cfToken := patchText body "cf_token"
  cfZoneId := patchText body "cf_zone_id"
  cfAccountId := patchText body "cf_account_id"

def merge (settings : Settings) (patch : SettingsPatch) : Settings where
  domain := patch.domain.or settings.domain
  accelDomain := patch.accelDomain.or settings.accelDomain
  accelPort := patch.accelPort.or settings.accelPort
  lanIp := patch.lanIp.or settings.lanIp
  cfToken := patch.cfToken.or settings.cfToken
  cfZoneId := patch.cfZoneId.or settings.cfZoneId
  cfAccountId := patch.cfAccountId.or settings.cfAccountId

def badName (text : List Char) : Bool :=
  text.head? = some '.' || text.head? = some '-' || decide ("://".toList <:+: text) ||
    decide ("..".toList <:+: text) ||
    !(text.all (fun char => char.isLower || char.isDigit || "._-".toList.contains char))

def checkName (label : String) (value : Option String) : Except String Unit :=
  match value with
  | some text =>
      if badName text.toList then .error ("invalid " ++ label ++ ": " ++ text) else .ok ()
  | none => .ok ()

def visibleAscii (char : Char) : Bool := 32 ≤ char.toNat && char.toNat ≤ 126

def validate (settings : Settings) : Except String Unit := do
  checkName "domain" settings.domain
  checkName "accel_domain" settings.accelDomain
  checkName "lan_ip" settings.lanIp
  if settings.accelPort = some 0 then throw "invalid accel_port"
  match settings.cfToken with
  | some token =>
      if token.toList.all visibleAscii then return ()
      else throw "invalid cf_token: contains non-visible or non-ASCII characters"
  | none => return ()

def textJson (value : Option String) : Json := value.elim .null .string

def portJson (value : Option Nat) : Json := value.elim .null (fun port => .number (.posInt port))

def toDiskJson (settings : Settings) : Json :=
  .object [("domain", textJson settings.domain), ("accel_domain", textJson settings.accelDomain),
    ("accel_port", portJson settings.accelPort), ("lan_ip", textJson settings.lanIp),
    ("cf_token", textJson settings.cfToken), ("cf_zone_id", textJson settings.cfZoneId),
    ("cf_account_id", textJson settings.cfAccountId)]

/-- The view of a response leaves the token out. -/
def toJson (settings : Settings) : Json :=
  .object [("domain", textJson settings.domain), ("accel_domain", textJson settings.accelDomain),
    ("accel_port", portJson settings.accelPort), ("lan_ip", textJson settings.lanIp),
    ("cf_zone_id", textJson settings.cfZoneId), ("cf_account_id", textJson settings.cfAccountId),
    ("cf_token_set", .bool settings.cfToken.isSome)]

def pullTarget (settings : Settings) : Option String :=
  settings.accelDomain.map (fun accel =>
    match settings.accelPort with
    | some port => accel ++ ":" ++ toString port
    | none => accel)

structure Storable (settings : Settings) : Prop where
  domain : settings.domain ≠ some ""
  accelDomain : settings.accelDomain ≠ some ""
  accelPort : ∀ port, settings.accelPort = some port → port < 2 ^ 16
  lanIp : settings.lanIp ≠ some ""
  cfToken : settings.cfToken ≠ some ""
  cfZoneId : settings.cfZoneId ≠ some ""
  cfAccountId : settings.cfAccountId ≠ some ""

theorem checkName_ok {label : String} {value : Option String} (passed : checkName label value = .ok ()) :
    ∀ text, value = some text → badName text.toList = false := by
  rintro text rfl
  unfold checkName at passed
  by_contra bad
  rw [Bool.not_eq_false] at bad
  simp only [bad, if_true] at passed
  cases passed

theorem validate_ok {settings : Settings} (valid : settings.validate = .ok ()) :
    (∀ text, settings.domain = some text → badName text.toList = false) ∧
      (∀ text, settings.accelDomain = some text → badName text.toList = false) ∧
      (∀ text, settings.lanIp = some text → badName text.toList = false) ∧
      settings.accelPort ≠ some 0 := by
  unfold validate at valid
  cases domain : checkName "domain" settings.domain with
  | error message =>
      rw [domain] at valid
      cases valid
  | ok _ =>
      cases accel : checkName "accel_domain" settings.accelDomain with
      | error message =>
          rw [domain, accel] at valid
          cases valid
      | ok _ =>
          cases address : checkName "lan_ip" settings.lanIp with
          | error message =>
              rw [domain, accel, address] at valid
              cases valid
          | ok _ =>
              refine ⟨checkName_ok domain, checkName_ok accel, checkName_ok address, ?_⟩
              intro zero
              rw [domain, accel, address, if_pos zero] at valid
              cases valid

theorem storedText_ne (value : Json) (key : String) : storedText value key ≠ some "" := by
  intro stored
  simpa using (Option.filter_eq_some_iff.mp stored).2

theorem patchText_ne (body : Json) (key : String) : patchText body key ≠ some "" := by
  intro patched
  simpa using (Option.filter_eq_some_iff.mp patched).2

theorem portAt_lt {value : Json} {port : Nat} (read : portAt value = some port) : port < 2 ^ 16 := by
  obtain ⟨number, _, rfl⟩ := Option.map_eq_some_iff.mp read
  exact Nat.mod_lt _ (by decide)

theorem fromJson_storable (value : Json) : (fromJson value).Storable :=
  ⟨storedText_ne _ _, storedText_ne _ _, fun _ => portAt_lt, storedText_ne _ _, storedText_ne _ _,
    storedText_ne _ _, storedText_ne _ _⟩

theorem or_ne {α : Type} {first second : Option α} {value : α} (left : first ≠ some value)
    (right : second ≠ some value) : first.or second ≠ some value := by
  cases first with
  | none => exact right
  | some held => exact left

theorem merge_storable {settings : Settings} (storable : settings.Storable) (body : Json) :
    (settings.merge (patchFromBody body)).Storable where
  domain := or_ne (patchText_ne _ _) storable.domain
  accelDomain := or_ne (patchText_ne _ _) storable.accelDomain
  accelPort := by
    intro port merged
    rcases Option.or_eq_some_iff.mp merged with patched | ⟨_, kept⟩
    · exact portAt_lt patched
    · exact storable.accelPort port kept
  lanIp := or_ne (patchText_ne _ _) storable.lanIp
  cfToken := or_ne (patchText_ne _ _) storable.cfToken
  cfZoneId := or_ne (patchText_ne _ _) storable.cfZoneId
  cfAccountId := or_ne (patchText_ne _ _) storable.cfAccountId

theorem textJson_read {value : Option String} (some_char : value ≠ some "") :
    (textJson value).asStr.filter (· ≠ "") = value := by
  cases value with
  | none => rfl
  | some text =>
      have kept : text ≠ "" := fun empty => some_char (congrArg some empty)
      simp [textJson, Json.asStr, kept]

theorem portJson_read {value : Option Nat} (small : ∀ port, value = some port → port < 2 ^ 16) :
    (portJson value).asU64.map (· % 2 ^ 16) = value := by
  cases value with
  | none => rfl
  | some port =>
      have bound := small port rfl
      have fits : port < 2 ^ 64 := Nat.lt_of_lt_of_le bound (by decide)
      have read : (portJson (some port)).asU64 = some port := if_pos fits
      rw [read, Option.map_some, Nat.mod_eq_of_lt bound]

theorem fromJson_toDiskJson {settings : Settings} (storable : settings.Storable) :
    fromJson settings.toDiskJson = settings := by
  have domain := textJson_read storable.domain
  have accelDomain := textJson_read storable.accelDomain
  have accelPort := portJson_read storable.accelPort
  have lanIp := textJson_read storable.lanIp
  have cfToken := textJson_read storable.cfToken
  have cfZoneId := textJson_read storable.cfZoneId
  have cfAccountId := textJson_read storable.cfAccountId
  cases settings
  simp only [Settings.mk.injEq, fromJson]
  exact ⟨domain, accelDomain, accelPort, lanIp, cfToken, cfZoneId, cfAccountId⟩

/-- The last of the patches that has the field. -/
def lastOf {α : Type} (field : SettingsPatch → Option α) (patches : List SettingsPatch) : Option α :=
  patches.reverse.findSome? field

/-- Each field as its last patch has it, or as it was at first. -/
def latest (initial : Settings) (patches : List SettingsPatch) : Settings where
  domain := (lastOf (·.domain) patches).or initial.domain
  accelDomain := (lastOf (·.accelDomain) patches).or initial.accelDomain
  accelPort := (lastOf (·.accelPort) patches).or initial.accelPort
  lanIp := (lastOf (·.lanIp) patches).or initial.lanIp
  cfToken := (lastOf (·.cfToken) patches).or initial.cfToken
  cfZoneId := (lastOf (·.cfZoneId) patches).or initial.cfZoneId
  cfAccountId := (lastOf (·.cfAccountId) patches).or initial.cfAccountId

theorem lastOf_snoc {α : Type} (field : SettingsPatch → Option α) (patches : List SettingsPatch)
    (patch : SettingsPatch) : lastOf field (patches ++ [patch]) =
      (field patch).or (lastOf field patches) := by
  rw [lastOf, List.reverse_append, List.reverse_singleton, List.singleton_append,
    List.findSome?_cons]
  cases field patch <;> rfl

theorem latest_snoc (initial : Settings) (patches : List SettingsPatch) (patch : SettingsPatch) :
    initial.latest (patches ++ [patch]) = (initial.latest patches).merge patch := by
  simp only [latest, merge, lastOf_snoc, Option.or_assoc]

end Settings

end WebProxy
