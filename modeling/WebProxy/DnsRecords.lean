import WebProxy.Library.Interaction
import WebProxy.Responses
import WebProxy.SaveSettings

/-! `create_dns_records`: what it asks the Cloudflare API, any number of calls interleaved in any way, and what
becomes of the records of a zone. -/

namespace WebProxy.DnsRecords

open Interaction
open FetchChunk (isSuccess)
open SaveSettings (Serde)

structure Reply where
  status : Nat
  reason : String
  text : Except String String

inductive Request where
  | zones (name token : String)
  | records (zone name token : String)
  | create (zone name content token : String)
  deriving DecidableEq, Repr

structure HttpCall where
  method : String
  url : String
  query : List (String × String)
  headers : List (String × String)
  body : Option Json

def api : String := "https://api.cloudflare.com/client/v4"

def bearer (token : String) : String × String := ("Authorization", "Bearer " ++ token)

def Request.http : Request → HttpCall
  | .zones name token => ⟨"GET", api ++ "/zones", [("name", name)], [bearer token], none⟩
  | .records zone name token =>
      ⟨"GET", api ++ "/zones/" ++ zone ++ "/dns_records", [("type", "A"), ("name", name)], [bearer token], none⟩
  | .create zone name content token =>
      ⟨"POST", api ++ "/zones/" ++ zone ++ "/dns_records", [],
        [bearer token, ("content-type", "application/json")],
        some (.object [("type", .string "A"), ("name", .string name), ("content", .string content),
          ("ttl", .number (.posInt 300)), ("proxied", .bool false)])⟩

def cloudflare : Interface := ⟨Unit, fun _ => Request, fun _ => Except String Reply⟩

/-- One step of `Value::pointer`; of the tokens in use only `0` is an index. -/
def pointerStep (token : String) : Json → Option Json
  | .array items => if token = "0" then items[0]? else none
  | value => value.get token

def firstId (value : Json) : Option String :=
  (((pointerStep "result" value).bind (pointerStep "0")).bind (pointerStep "id")).bind Json.asStr

abbrev Answer : Type := Nat × String

def namesJson (names : List String) : Json := .array (names.map Json.string)

def summary (created skipped : List String) : Json :=
  .object [("created", namesJson created), ("skipped_existing", namesJson skipped)]

/-- A lookup that fails reads as an empty text. -/
def lookupText : Except String Reply → String
  | .ok reply => reply.text.toOption.getD ""
  | .error _ => ""

variable (serde : Serde)

def recordLoop (zone lanIp token : String) :
    List String → List String → List String → Program cloudflare Answer
  | [], created, skipped => .done (200, serde.print (summary created skipped))
  | name :: names, created, skipped =>
      .ask () (.records zone name token) (fun existing =>
        if ((serde.parse (lookupText existing)).bind firstId).isSome then
          recordLoop zone lanIp token names created (skipped ++ [name])
        else
          .ask () (.create zone name lanIp token) (fun record =>
            match record with
            | .ok reply =>
                if isSuccess reply.status then
                  recordLoop zone lanIp token names (created ++ [name]) skipped
                else
                  .done (502, "create " ++ name ++ " failed: HTTP " ++ toString reply.status ++ " " ++
                    reply.reason ++ " " ++ reply.text.toOption.getD "" ++ "\n")
            | .error error => .done (502, error ++ "\n")))

def recordNames (domain : String) : List String :=
  [domain, "docker." ++ domain, "git." ++ domain, "*." ++ domain]

def createDnsRecords (settings : Settings) : Program cloudflare Answer :=
  match settings.domain, settings.lanIp, settings.cfToken with
  | some domain, some lanIp, some token =>
      if (Responses.headerValue ("Bearer " ++ token)).isNone then
        .done (400, "cf_token contains characters not allowed in HTTP headers\n")
      else
        .ask () (.zones domain token) (fun lookup =>
          match lookup with
          | .error error => .done (502, "zone lookup: " ++ error ++ "\n")
          | .ok reply =>
              match reply.text with
              | .error error => .done (502, error ++ "\n")
              | .ok text =>
                  match firstId ((serde.parse text).getD .null) with
                  | none => .done (400, "zone " ++ domain ++ " not found in this Cloudflare account\n")
                  | some zone => recordLoop serde zone lanIp token (recordNames domain) [] [])
  | _, _, _ => .done (400, "需要先在设置里填好 主域名 / LAN IP / Cloudflare Token\n")

structure Record where
  name : String
  content : String
  deriving DecidableEq, Repr

/-- What the API keeps: the first zone of a name, and the A records of a zone. -/
structure Account where
  zoneId : String → Option String
  records : String → List Record

/-- What becomes of a request: it is carried out and answered with a text, carried out with the text or all of
the response lost, refused, or not sent. What is carried out is so before the call goes on or is dropped: a
creation that is still on its way then, and lands behind the next lookup, is not among these. -/
inductive Fate where
  | answered (text : String)
  | cut (error : String)
  | lost (error : String)
  | refused (status : Nat) (reason text : String)
  | unsent (error : String)
  deriving DecidableEq, Repr

def Account.add (account : Account) (zone : String) (record : Record) : Account :=
  { account with records := Function.update account.records zone (account.records zone ++ [record]) }

def Account.apply (account : Account) : Request → Account
  | .create zone name content _ => account.add zone ⟨name, content⟩
  | _ => account

def host : Host cloudflare Fate Account := fun fate _ request account =>
  match fate with
  | .answered text => (.ok ⟨200, "OK", .ok text⟩, account.apply request)
  | .cut error => (.ok ⟨200, "OK", .error error⟩, account.apply request)
  | .lost error => (.error error, account.apply request)
  | .refused status reason text => (.ok ⟨status, reason, .ok text⟩, account)
  | .unsent error => (.error error, account)

/-- A response says what the account has; a refusal is no success and names nothing. -/
def Tells (serde : Serde) : Fate → Request → Account → Prop
  | .answered text, .zones name _, account => firstId ((serde.parse text).getD .null) = account.zoneId name
  | .answered text, .records zone name _, account =>
      ((serde.parse text).bind firstId).isSome = (account.records zone).any (fun record => record.name = name)
  | .refused status _ text, _, _ => isSuccess status = false ∧ (serde.parse text).bind firstId = none
  | _, _, _ => True

/-- Zones stay, and records come only at the end; each new one is wanted. -/
structure Grown (wanted : String → Record → Prop) (first second : Account) : Prop where
  zones : second.zoneId = first.zoneId
  records : ∀ zone, ∃ added, second.records zone = first.records zone ++ added ∧
    ∀ record ∈ added, wanted zone record

theorem Grown.refl (wanted : String → Record → Prop) (account : Account) : Grown wanted account account :=
  ⟨rfl, fun _ => ⟨[], (List.append_nil _).symm, fun _ member => absurd member List.not_mem_nil⟩⟩

theorem Grown.trans {wanted : String → Record → Prop} {first second third : Account}
    (early : Grown wanted first second) (late : Grown wanted second third) : Grown wanted first third where
  zones := late.zones.trans early.zones
  records := by
    intro zone
    obtain ⟨front, same, good⟩ := early.records zone
    obtain ⟨back, grown, also⟩ := late.records zone
    refine ⟨front ++ back, by rw [grown, same, List.append_assoc], ?_⟩
    intro record member
    rcases List.mem_append.mp member with old | new
    · exact good record old
    · exact also record new

theorem Account.add_records (account : Account) (zone other : String) (record : Record) :
    (account.add zone record).records other =
      account.records other ++ if other = zone then [record] else [] := by
  rw [Account.add]
  by_cases same : other = zone
  · subst same
    simp
  · simp [same]

theorem grown_add {wanted : String → Record → Prop} (account : Account) {zone : String} {record : Record}
    (good : wanted zone record) : Grown wanted account (account.add zone record) where
  zones := rfl
  records := by
    intro other
    refine ⟨_, account.add_records zone other record, ?_⟩
    intro added member
    split at member
    · rename_i same
      rw [List.mem_singleton.mp member, same]
      exact good
    · exact absurd member List.not_mem_nil

def Account.has (account : Account) (zone name : String) : Prop :=
  ∃ record ∈ account.records zone, record.name = name

theorem Grown.has {wanted : String → Record → Prop} {first second : Account} (grown : Grown wanted first second)
    {zone name : String} (present : first.has zone name) : second.has zone name := by
  obtain ⟨record, member, named⟩ := present
  obtain ⟨added, same, _⟩ := grown.records zone
  exact ⟨record, same ▸ List.mem_append_left added member, named⟩

structure Split (names created skipped : List String) : Prop where
  all : (created ++ skipped).Perm names
  created : created.Sublist names
  skipped : skipped.Sublist names

theorem Split.create {names created skipped : List String} (split : Split names created skipped)
    (name : String) : Split (names ++ [name]) (created ++ [name]) skipped where
  all := by
    have moved : (created ++ [name] ++ skipped).Perm (created ++ skipped ++ [name]) := by
      rw [List.append_assoc, List.append_assoc]
      exact List.perm_append_comm.append_left created
    exact moved.trans (split.all.append_right [name])
  created := split.created.append (List.Sublist.refl [name])
  skipped := split.skipped.trans (List.sublist_append_left names [name])

theorem Split.skip {names created skipped : List String} (split : Split names created skipped)
    (name : String) : Split (names ++ [name]) created (skipped ++ [name]) where
  all := by
    rw [← List.append_assoc]
    exact split.all.append_right [name]
  created := split.created.trans (List.sublist_append_left names [name])
  skipped := split.skipped.append (List.Sublist.refl [name])

/-- What an answer with 200 means, to a call that loaded the settings. -/
def Means (serde : Serde) (settings : Settings) (answer : Answer) (account : Account) : Prop :=
  answer.1 = 200 → ∃ domain zone created skipped, settings.domain = some domain ∧
    answer.2 = serde.print (summary created skipped) ∧ account.zoneId domain = some zone ∧ Split (recordNames domain) created skipped ∧
    ∀ name ∈ recordNames domain, account.has zone name

def besideRules (serde : Serde) (wanted : String → Record → Prop) : Rules cloudflare Fate Account where
  host := host
  admits := fun fate _ request account => Tells serde fate request account
  rely := Grown wanted
  guar := Grown wanted

theorem beside_steady (serde : Serde) (wanted : String → Record → Prop) :
    (besideRules serde wanted).Steady :=
  ⟨Grown.refl wanted, fun _ _ _ => Grown.trans⟩

variable {serde : Serde} {wanted : String → Record → Prop}

theorem lookup_found (blank : serde.parse "" = none) {fate : Fate} {zone name token : String}
    {account : Account} (tells : Tells serde fate (.records zone name token) account)
    (found : ((serde.parse (lookupText (host fate () (.records zone name token) account).1)).bind
      firstId).isSome = true) : account.has zone name := by
  have nothing : ((serde.parse "").bind firstId).isSome = false := by simp [blank]
  cases fate with
  | answered text =>
      have present := tells.symm.trans found
      obtain ⟨record, member, named⟩ := List.any_eq_true.mp present
      exact ⟨record, member, of_decide_eq_true named⟩
  | cut error => exact absurd (nothing.symm.trans found) (by simp)
  | lost error => exact absurd (nothing.symm.trans found) (by simp)
  | refused status reason text =>
      change ((serde.parse text).bind firstId).isSome = true at found
      rw [tells.2] at found
      cases found
  | unsent error => exact absurd (nothing.symm.trans found) (by simp)

theorem host_lookup (fate : Fate) (zone name token : String) (account : Account) :
    (host fate () (.records zone name token) account).2 = account := by
  cases fate <;> rfl

theorem host_create {fate : Fate} {zone name content token : String} {account : Account}
    (tells : Tells serde fate (.create zone name content token) account) :
    ((host fate () (.create zone name content token) account).2 = account.add zone ⟨name, content⟩ ∨
      (host fate () (.create zone name content token) account).2 = account) ∧
      ∀ reply, (host fate () (.create zone name content token) account).1 = .ok reply →
        isSuccess reply.status = true →
        (host fate () (.create zone name content token) account).2 = account.add zone ⟨name, content⟩ := by
  cases fate with
  | answered text => exact ⟨Or.inl rfl, fun _ _ _ => rfl⟩
  | cut error => exact ⟨Or.inl rfl, fun _ _ _ => rfl⟩
  | lost error => exact ⟨Or.inl rfl, fun _ _ _ => rfl⟩
  | refused status reason text =>
      refine ⟨Or.inr rfl, ?_⟩
      intro reply same success
      cases same
      exact absurd success (Bool.eq_false_iff.mp tells.1)
  | unsent error =>
      refine ⟨Or.inr rfl, ?_⟩
      intro reply same
      cases same

theorem means_failed (settings : Settings) (text : String) (account : Account) :
    Means serde settings (502, text) account :=
  fun same => absurd same (by decide : ¬ (502 : Nat) = 200)

theorem recordLoop_holds (blank : serde.parse "" = none) {settings : Settings}
    {domain zone lanIp token : String} (named : settings.domain = some domain)
    (asked : ∀ name ∈ recordNames domain, wanted zone ⟨name, lanIp⟩) (left : List String) :
    ∀ (front created skipped : List String) (account : Account), recordNames domain = front ++ left →
      Split front created skipped → account.zoneId domain = some zone →
      (∀ name ∈ front, account.has zone name) →
      (recordLoop serde zone lanIp token left created skipped).Holds (besideRules serde wanted)
        (Means serde settings) account := by
  induction left with
  | nil =>
      intro front created skipped account names split found present later grown _
      rw [List.append_nil] at names
      subst names
      exact ⟨domain, zone, created, skipped, named, rfl, by rw [grown.zones, found], split,
        fun name member => grown.has (present name member)⟩
  | cons name left ih =>
      intro front created skipped account names split found present later grown fate tells
      have behind : recordNames domain = (front ++ [name]) ++ left := by simp [names]
      have here : name ∈ recordNames domain := by simp [names]
      -- the names so far with this one, in any account that has it
      have onward : ∀ further, Grown wanted later further → further.has zone name →
          ∀ other ∈ front ++ [name], further.has zone other := by
        intro further more added other member
        rcases List.mem_append.mp member with old | new
        · exact (grown.trans more).has (present other old)
        · rw [List.mem_singleton.mp new]
          exact added
      have same := host_lookup fate zone name token later
      refine ⟨?_, ?_⟩
      · change Grown wanted later (host fate () _ later).2
        rw [same]
        exact Grown.refl wanted later
      · change Program.Holds _ _ (ite _ _ _) (host fate () _ later).2
        rw [same]
        split
        · rename_i known
          have there := lookup_found blank tells known
          exact ih (front ++ [name]) created (skipped ++ [name]) later behind (split.skip name)
            (by rw [grown.zones, found]) (onward later (Grown.refl wanted later) there)
        · intro further more choice truth
          have adds := grown_add further (asked name here)
          obtain ⟨moves, success⟩ := host_create truth
          have grows : Grown wanted further
              (host choice () (.create zone name lanIp token) further).2 := by
            rcases moves with added | kept
            · rw [added]
              exact adds
            · rw [kept]
              exact Grown.refl wanted further
          refine ⟨grows, ?_⟩
          change Program.Holds _ _ (match (host choice () (.create zone name lanIp token) further).1 with
            | .ok reply => _
            | .error error => _) (host choice () (.create zone name lanIp token) further).2
          cases heard : (host choice () (.create zone name lanIp token) further).1 with
          | error error => exact fun later _ => means_failed settings _ later
          | ok reply =>
              dsimp only
              split
              · rename_i succeeded
                have added := success reply heard succeeded
                have there : (further.add zone ⟨name, lanIp⟩).has zone name :=
                  ⟨⟨name, lanIp⟩, by simp [Account.add_records], rfl⟩
                rw [added]
                exact ih (front ++ [name]) (created ++ [name]) skipped _ behind (split.create name)
                  (by rw [adds.zones, more.zones, grown.zones, found]) (onward _ (more.trans adds) there)
              · exact fun later _ => means_failed settings _ later

theorem zones_found {fate : Fate} {domain token zone text : String} {account : Account} {reply : Reply}
    (tells : Tells serde fate (.zones domain token) account)
    (heard : (host fate () (.zones domain token) account).1 = .ok reply) (arrived : reply.text = .ok text)
    (found : firstId ((serde.parse text).getD .null) = some zone) : account.zoneId domain = some zone := by
  cases fate with
  | answered given =>
      cases heard
      cases arrived
      exact tells.symm.trans found
  | refused status reason given =>
      cases heard
      cases arrived
      cases parsed : serde.parse text with
      | none =>
          rw [parsed] at found
          cases found
      | some value =>
          have none_named := tells.2
          rw [parsed, Option.bind_some] at none_named
          rw [parsed, Option.getD_some, none_named] at found
          cases found
  | cut error =>
      cases heard
      cases arrived
  | lost error => cases heard
  | unsent error => cases heard

theorem createDnsRecords_holds (blank : serde.parse "" = none) {settings : Settings} {account : Account}
    (asked : ∀ domain lanIp zone, settings.domain = some domain → settings.lanIp = some lanIp →
      account.zoneId domain = some zone → ∀ name ∈ recordNames domain, wanted zone ⟨name, lanIp⟩) :
    (createDnsRecords serde settings).Holds (besideRules serde wanted) (Means serde settings) account := by
  have failed : ∀ status text further, status ≠ 200 → Means serde settings (status, text) further :=
    fun _ _ _ other same => absurd same other
  unfold createDnsRecords
  split
  · rename_i domain lanIp token named addressed held
    split
    · exact fun later _ => failed _ _ later (by decide)
    · intro later grown fate tells
      have same : (host fate () (.zones domain token) later).2 = later := by cases fate <;> rfl
      refine ⟨?_, ?_⟩
      · change Grown wanted later (host fate () (.zones domain token) later).2
        rw [same]
        exact Grown.refl wanted later
      · change Program.Holds _ _ (match (host fate () (.zones domain token) later).1 with
          | .error error => _
          | .ok reply => _) (host fate () (.zones domain token) later).2
        rw [same]
        cases heard : (host fate () (.zones domain token) later).1 with
        | error error => exact fun further _ => failed _ _ further (by decide)
        | ok reply =>
            dsimp only
            split
            · exact fun further _ => failed _ _ further (by decide)
            · rename_i text arrived
              split
              · exact fun further _ => failed _ _ further (by decide)
              · rename_i zone found
                have located : later.zoneId domain = some zone := zones_found tells heard arrived found
                exact recordLoop_holds blank named
                  (asked domain lanIp zone named addressed (grown.zones ▸ located)) (recordNames domain) [] [] []
                  later rfl ⟨List.Perm.refl [], List.Sublist.refl [], List.Sublist.refl []⟩ located
                  (fun name member => absurd member List.not_mem_nil)
  · exact fun later _ => failed _ _ later (by decide)

/-- The records the calls are for: the four names of a domain that one of them loaded, in its zone, with its
address. -/
def Wanted (account : Account) (loaded : List Settings) (zone : String) (record : Record) : Prop :=
  ∃ settings ∈ loaded, ∃ domain, settings.domain = some domain ∧
    settings.lanIp = some record.content ∧ account.zoneId domain = some zone ∧
    record.name ∈ recordNames domain

abbrev Calls : Type := Server cloudflare Answer Account

abbrev CallEvent : Type := Interaction.Event cloudflare Answer Fate

def Told (serde : Serde) (loaded : List Settings) (calls : Calls) : CallEvent → Prop
  | .spawn program => ∃ settings, loaded[calls.programs.length]? = some settings ∧
      program = createDnsRecords serde settings
  | .answer number fate => ∀ request next, calls.programs[number]? = some (some (.ask () request next)) →
      Tells serde fate request calls.state
  | .drop _ => True

/-- Any number of calls beside each other, answered, cut off and dropped at any time: what was in the account
stays as it was, the records that came are wanted ones at the end of their zone, and whenever a call has
answered with 200 each of the four names of its domain was either created or found, and has a record from then
on. -/
theorem calls_grow_records (serde : Serde) (blank : serde.parse "" = none) (loaded : List Settings)
    (account : Account) (events : List CallEvent) (final : Calls)
    (told : Machine.Along (step host) (Told serde loaded) ⟨account, []⟩ events)
    (ran : Machine.run (step host) ⟨account, []⟩ events = some final) :
    Grown (Wanted account loaded) account final.state ∧
      ∀ (number : Nat) (answer : Answer), final.result number = some answer →
        ∃ settings, loaded[number]? = some settings ∧ Means serde settings answer final.state := by
  let posts (number : Nat) (answer : Answer) (later : Account) : Prop :=
    ∃ settings, loaded[number]? = some settings ∧ Means serde settings answer later
  have begin := And.intro (sound_start (besideRules serde (Wanted account loaded)) posts account)
    (Grown.refl (Wanted account loaded) account)
  have kept := Machine.along_invariant
    (fun calls : Calls => calls.Sound (besideRules serde (Wanted account loaded)) posts ∧
      Grown (Wanted account loaded) account calls.state)
    (by
      rintro calls event next ⟨sound, grown⟩ truth taken
      have starts : ∀ program, event = .spawn program →
          program.Holds (besideRules serde (Wanted account loaded)) (posts calls.programs.length)
            calls.state := by
        rintro program rfl
        obtain ⟨settings, held, rfl⟩ := truth
        refine Program.Holds.mono (fun answer later means => ⟨settings, held, means⟩)
          (createDnsRecords_holds blank ?_)
        intro domain lanIp zone named addressed located name member
        exact ⟨settings, List.mem_of_getElem? held, domain, named, addressed, grown.zones ▸ located, member⟩
      have admitted : Admitted (besideRules serde (Wanted account loaded)) calls event := by
        cases event with
        | answer number fate => exact fun _ request next held => truth request next held
        | _ => trivial
      obtain ⟨after, moved⟩ := sound_step (beside_steady serde _) (fun _ _ same => same) sound starts
        admitted taken
      refine ⟨after, ?_⟩
      rcases moved with same | grew
      · rw [same]
        exact grown
      · exact grown.trans grew)
    begin told ran
  refine ⟨kept.2, ?_⟩
  intro number answer ended
  exact kept.1 number _ (Server.result_done ended) final.state (Grown.refl _ _)

/-- Only names without a record get one, and one each. -/
structure Fresh (first second : Account) : Prop where
  zones : second.zoneId = first.zoneId
  records : ∀ zone, ∃ added, second.records zone = first.records zone ++ added ∧
    (added.map Record.name).Nodup ∧ ∀ record ∈ added, ¬ first.has zone record.name

theorem Fresh.refl (account : Account) : Fresh account account :=
  ⟨rfl, fun _ => ⟨[], (List.append_nil _).symm, List.nodup_nil, fun _ member => absurd member List.not_mem_nil⟩⟩

theorem Fresh.trans {first second third : Account} (early : Fresh first second) (late : Fresh second third) :
    Fresh first third where
  zones := late.zones.trans early.zones
  records := by
    intro zone
    obtain ⟨front, same, once, new⟩ := early.records zone
    obtain ⟨back, grown, also, newer⟩ := late.records zone
    have before : ∀ record ∈ back, ∀ name, first.has zone name ∨ name ∈ front.map Record.name →
        record.name ≠ name := by
      rintro record member _ (⟨old, there, rfl⟩ | listed) clash
      · exact newer record member ⟨old, by rw [same]; exact List.mem_append_left front there, clash.symm⟩
      · obtain ⟨old, there, rfl⟩ := List.mem_map.mp listed
        exact newer record member ⟨old, by rw [same]; exact List.mem_append_right _ there, clash.symm⟩
    refine ⟨front ++ back, by rw [grown, same, List.append_assoc], ?_, ?_⟩
    · rw [List.map_append]
      refine List.nodup_append.mpr ⟨once, also, ?_⟩
      intro name listed other member clash
      obtain ⟨record, there, rfl⟩ := List.mem_map.mp member
      exact before record there name (Or.inr listed) clash.symm
    · intro record member
      rcases List.mem_append.mp member with old | later
      · exact new record old
      · exact fun present => before record later _ (Or.inl present) rfl

theorem fresh_add {account : Account} {zone : String} {record : Record} (missing : ¬ account.has zone record.name) :
    Fresh account (account.add zone record) where
  zones := rfl
  records := by
    intro other
    refine ⟨_, account.add_records zone other record, ?_⟩
    split
    · rename_i same
      refine ⟨by simp, ?_⟩
      intro added member
      rw [List.mem_singleton.mp member, same]
      exact missing
    · exact ⟨List.nodup_nil, fun _ member => absurd member List.not_mem_nil⟩

def lookedUp (fate : Fate) (request : Request) : Prop :=
  ∀ zone name token, request = .records zone name token → ∃ text, fate = .answered text

def serialRules (serde : Serde) : Rules cloudflare Fate Account where
  host := host
  admits := fun fate _ request account => Tells serde fate request account ∧ lookedUp fate request
  rely := Eq
  guar := Fresh

theorem recordLoop_fresh {zone lanIp token : String} (left : List String) :
    ∀ (created skipped : List String) (account : Account),
      (recordLoop serde zone lanIp token left created skipped).Holds (serialRules serde) (fun _ _ => True)
        account := by
  induction left with
  | nil => exact fun _ _ _ _ _ => trivial
  | cons name left ih =>
      rintro created skipped account _ rfl fate ⟨tells, looked⟩
      obtain ⟨text, rfl⟩ := looked zone name token rfl
      refine ⟨Fresh.refl account, ?_⟩
      change Program.Holds _ _ (ite (((serde.parse text).bind firstId).isSome = true) _ _) account
      split
      · exact ih created (skipped ++ [name]) account
      · rename_i unknown
        have missing : ¬ account.has zone name := by
          rintro ⟨record, member, named⟩
          apply unknown
          rw [tells]
          exact List.any_eq_true.mpr ⟨record, member, decide_eq_true named⟩
        rintro _ rfl choice ⟨truth, _⟩
        obtain ⟨moves, _⟩ := host_create truth
        refine ⟨?_, ?_⟩
        · change Fresh account (host choice () (.create zone name lanIp token) account).2
          rcases moves with added | kept
          · rw [added]
            exact fresh_add missing
          · rw [kept]
            exact Fresh.refl account
        · change Program.Holds _ _ (match (host choice () (.create zone name lanIp token) account).1 with
            | .ok reply => _
            | .error error => _) (host choice () (.create zone name lanIp token) account).2
          cases (host choice () (.create zone name lanIp token) account).1 with
          | error error => exact fun _ _ => trivial
          | ok reply =>
              dsimp only
              split
              · exact ih (created ++ [name]) skipped _
              · exact fun _ _ => trivial

theorem createDnsRecords_fresh (settings : Settings) (account : Account) :
    (createDnsRecords serde settings).Holds (serialRules serde) (fun _ _ => True) account := by
  unfold createDnsRecords
  split
  · split
    · exact fun _ _ => trivial
    · rename_i domain lanIp token _ _ _ _
      rintro _ rfl fate _
      have same : (host fate () (.zones domain token) account).2 = account := by cases fate <;> rfl
      refine ⟨?_, ?_⟩
      · change Fresh account (host fate () (.zones domain token) account).2
        rw [same]
        exact Fresh.refl account
      · change Program.Holds _ _ (match (host fate () (.zones domain token) account).1 with
          | .error error => _
          | .ok reply => _) (host fate () (.zones domain token) account).2
        cases (host fate () (.zones domain token) account).1 with
        | error error => exact fun _ _ => trivial
        | ok reply =>
            dsimp only
            split
            · exact fun _ _ => trivial
            · split
              · exact fun _ _ => trivial
              · exact recordLoop_fresh (recordNames domain) [] [] _
  · exact fun _ _ => trivial

/-- No call starts before the ones before it are over, and every lookup of records is answered. -/
def Orderly (serde : Serde) (loaded : List Settings) (calls : Calls) (event : CallEvent) : Prop :=
  Told serde loaded calls event ∧ Serial calls event ∧
    match event with
    | .answer number fate => ∀ request next, calls.programs[number]? = some (some (.ask () request next)) →
        lookedUp fate request
    | _ => True

/-- Calls one after the other add a record only where the name has none, and never a second one: not where
they are repeated, dropped halfway, or a creation is carried out and its answer lost. -/
theorem calls_never_double (serde : Serde) (loaded : List Settings) (account : Account)
    (events : List CallEvent) (final : Calls)
    (orderly : Machine.Along (step host) (Orderly serde loaded) ⟨account, []⟩ events)
    (ran : Machine.run (step host) ⟨account, []⟩ events = some final) : Fresh account final.state := by
  have begin := And.intro (alone_start (serialRules serde) (fun (_ : Answer) _ => True) account)
    (Fresh.refl account)
  have kept := Machine.along_invariant
    (fun calls : Calls => calls.Alone (serialRules serde) (fun _ _ => True) ∧ Fresh account calls.state)
    (by
      rintro calls event next ⟨alone, fresh⟩ ⟨truth, serial, looked⟩ taken
      have starts : ∀ program, event = .spawn program →
          program.Holds (serialRules serde) (fun _ _ => True) calls.state := by
        rintro program rfl
        obtain ⟨settings, _, rfl⟩ := truth
        exact createDnsRecords_fresh settings calls.state
      have admitted : Admitted (serialRules serde) calls event := by
        cases event with
        | answer number fate =>
            exact fun _ request next held => ⟨truth request next held, looked request next held⟩
        | _ => trivial
      obtain ⟨after, moved⟩ := alone_step (fun _ => rfl) alone serial starts admitted taken
      refine ⟨after, ?_⟩
      rcases moved with same | grew
      · rw [same]
        exact fresh
      · exact fresh.trans grew)
    begin orderly ran
  exact kept.2

def zoneText : String := "\x7b\"result\":[\x7b\"id\":\"z1\"\x7d]\x7d"

def emptyText : String := "\x7b\"result\":[]\x7d"

def summaryText : String :=
  "\x7b\"created\":[\"a.org\"],\"skipped_existing\":[\"docker.a.org\",\"git.a.org\",\"*.a.org\"]\x7d"

def sampleSerde : Serde where
  print _ := summaryText
  parse text :=
    if text = zoneText then some (.object [("result", .array [.object [("id", .string "z1")]])])
    else if text = emptyText then some (.object [("result", .array [])])
    else none

def sampleSettings : Settings :=
  { Settings.default with domain := some "a.org", lanIp := some "10.0.0.2", cfToken := some "token" }

def sampleAccount : Account where
  zoneId name := if name = "a.org" then some "z1" else none
  records _ := [⟨"docker.a.org", "10.0.0.9"⟩, ⟨"git.a.org", "10.0.0.9"⟩, ⟨"*.a.org", "10.0.0.9"⟩]

def sampleFates : List Fate :=
  [.answered zoneText, .answered emptyText, .answered "", .answered zoneText, .answered zoneText,
    .answered zoneText]

def sampleEvents : List CallEvent :=
  .spawn (createDnsRecords sampleSerde sampleSettings) :: sampleFates.map (.answer 0)

def tellsSample (calls : Calls) : CallEvent → Bool
  | .answer number (.answered text) =>
      match calls.programs[number]? with
      | some (some (.ask _ (.zones name _) _)) =>
          decide (firstId ((sampleSerde.parse text).getD .null) = calls.state.zoneId name)
      | some (some (.ask _ (.records zone name _) _)) =>
          decide (((sampleSerde.parse text).bind firstId).isSome =
            (calls.state.records zone).any (fun record => record.name = name))
      | _ => true
  | _ => false

theorem tellsSample_orderly (calls : Calls) (event : CallEvent) (tells : tellsSample calls event = true) :
    Orderly sampleSerde [sampleSettings] calls event := by
  cases event with
  | spawn program => cases tells
  | drop number => cases tells
  | answer number fate =>
      cases fate with
      | answered text =>
          refine ⟨?_, trivial, fun _ _ _ _ _ _ _ => ⟨text, rfl⟩⟩
          intro request next held
          rw [tellsSample, held] at tells
          cases request with
          | zones name token =>
              have same := of_decide_eq_true tells
              exact same
          | records zone name token =>
              have same := of_decide_eq_true tells
              exact same
          | create zone name content token => trivial
      | _ => cases tells

theorem sample_orderly : Machine.Along (step host) (Orderly sampleSerde [sampleSettings])
    ⟨sampleAccount, []⟩ sampleEvents := by
  refine ⟨⟨⟨sampleSettings, rfl, rfl⟩, fun _ _ found => by simp at found, trivial⟩, ?_⟩
  intro next taken
  obtain rfl := Option.some.inj taken
  exact Machine.along_mono tellsSample_orderly (by decide +kernel)

theorem calls_grow_records_sample : ∃ final,
    Machine.run (step host) ⟨sampleAccount, []⟩ sampleEvents = some final ∧
      Grown (Wanted sampleAccount [sampleSettings]) sampleAccount final.state ∧
      Means sampleSerde sampleSettings (200, summaryText) final.state := by
  have ends : (Machine.run (step host) ⟨sampleAccount, []⟩ sampleEvents).bind (fun final => final.result 0) =
      some (200, summaryText) := by decide +kernel
  obtain ⟨final, ran, ended⟩ := Option.bind_eq_some_iff.mp ends
  obtain ⟨grown, means⟩ := calls_grow_records sampleSerde (by decide +kernel) [sampleSettings] sampleAccount
    sampleEvents final (Machine.along_mono (fun _ _ orderly => orderly.1) sample_orderly) ran
  obtain ⟨settings, same, meant⟩ := means 0 _ ended
  cases same
  exact ⟨final, ran, grown, meant⟩

theorem calls_never_double_sample : ∃ final,
    Machine.run (step host) ⟨sampleAccount, []⟩ sampleEvents = some final ∧ Fresh sampleAccount final.state ∧
      (final.state.records "z1").map Record.name = ["docker.a.org", "git.a.org", "*.a.org", "a.org"] := by
  have ends : (Machine.run (step host) ⟨sampleAccount, []⟩ sampleEvents).map (fun final =>
      (final.state.records "z1").map Record.name) =
        some ["docker.a.org", "git.a.org", "*.a.org", "a.org"] := by decide +kernel
  obtain ⟨final, ran, names⟩ := Option.map_eq_some_iff.mp ends
  exact ⟨final, ran, calls_never_double sampleSerde [sampleSettings] sampleAccount sampleEvents final
    sample_orderly ran, names⟩

/-- Two calls that look a name up before either of them creates it. -/
example : (Machine.run (step host) ⟨sampleAccount, []⟩
    ([.spawn (createDnsRecords sampleSerde sampleSettings), .spawn (createDnsRecords sampleSerde sampleSettings),
      .answer 0 (.answered zoneText), .answer 1 (.answered zoneText), .answer 0 (.answered emptyText),
      .answer 1 (.answered emptyText), .answer 0 (.answered ""), .answer 1 (.answered "")] :
        List CallEvent)).map (fun final => (final.state.records "z1").countP (·.name = "a.org")) = some 2 := by
  decide +kernel

end WebProxy.DnsRecords
