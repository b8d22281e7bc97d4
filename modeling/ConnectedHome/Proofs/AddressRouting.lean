import ConnectedHome.Proofs.Addresses
import ConnectedHome.Vehicle.Endpoints
/-!
# AddressRouting — where a request of the vehicle service goes

An address template is a row of pieces (`Text.Piece`): text copied as it stands, and fields
`{name}` filled by name.  A template whose text has no braces and whose fields have plain names
fills to its pieces with every field replaced by the text of its value (`fillTemplate_pieces`),
with one step of fuel per text character and per field.

The vehicle service then routes the filled path (`AccountConfig.brandUrl_pieces`): it is the address
itself when the template or the path holds a scheme separator `://`, and a path under the brand's
base address otherwise, which fails for a brand that is not recognised.  The path is looked at, not
only the template: a template that starts with the home region, such as the list of operations,
holds no scheme and fills to an absolute address, which is used as it stands
(`operationList_address_not_under_base`).
-/
namespace ConnectedHome

namespace Text

/-- A piece of an address template: text copied as it stands, or a field filled by name. -/
inductive Piece where
  | text (s : String)
  | field (name : String)
deriving DecidableEq

namespace Piece

/-- The characters of the template that a piece stands for. -/
def chars : Piece → List Char
  | .text s => s.toList
  | .field n => '{' :: n.toList ++ ['}']

/-- What a piece fills to, `σ` giving the text of each field. -/
def fill (σ : String → String) : Piece → List Char
  | .text s => s.toList
  | .field n => (σ n).toList

/-- A plain piece: text without braces, or a field with a name that is not empty, does not start
with a digit and holds only name characters. -/
def plain : Piece → Bool
  | .text s => s.toList.all fun c => c != '{' && c != '}'
  | .field n => n.toList.head?.all (fun c => (digitValue? c).isNone) && !n.isEmpty &&
      n.toList.all fun c => decide (NameChar c)

end Piece

namespace Template

def source (ps : List Piece) : String := String.ofList (ps.flatMap Piece.chars)

/-- What a template made of pieces fills to, `σ` giving the text of each field. -/
def fill (σ : String → String) (ps : List Piece) : String := String.ofList (ps.flatMap (Piece.fill σ))

def fields (ps : List Piece) : List String :=
  ps.filterMap fun
    | .field n => some n
    | .text _ => none

end Template

/-- The lookup gives every field of the template a value whose text is the one `σ` gives. -/
def LooksUp (lookup : String → Option Subject) (σ : String → String) (ps : List Piece) : Prop :=
  ∀ n ∈ Template.fields ps, ∃ v, lookup n = some (.value v) ∧ v.display = σ n

theorem LooksUp.tail {lookup : String → Option Subject} {σ : String → String} {p : Piece} {ps : List Piece}
    (h : LooksUp lookup σ (p :: ps)) : LooksUp lookup σ ps := by
  intro n hn
  apply h n
  cases p <;> simp_all [Template.fields]

/-- **A row of plain pieces fills piece by piece**: each text is copied and each field replaced by
the text of its value, and filling goes on with what follows, with fuel to spare for it. -/
theorem fillChars_pieces (lookup : String → Option Subject) (σ : String → String) (depth : Nat) :
    ∀ (ps : List Piece) (rest : List Char) (fuel : Nat) (acc : List Char), (∀ p ∈ ps, p.plain = true) →
      LooksUp lookup σ ps → (ps.flatMap Piece.chars).length + rest.length ≤ fuel →
      ∃ fuel', rest.length ≤ fuel' ∧
        fillChars lookup depth fuel (ps.flatMap Piece.chars ++ rest) acc =
          fillChars lookup depth fuel' rest ((ps.flatMap (Piece.fill σ)).reverse ++ acc)
  | [], rest, fuel, acc, _, _, hfuel => ⟨fuel, by simpa using hfuel, by simp⟩
  | .text s :: ps, rest, fuel, acc, hplain, hlook, hfuel => by
    have hs : ∀ c ∈ s.toList, c ≠ '{' ∧ c ≠ '}' := by
      simpa [Piece.plain] using hplain _ List.mem_cons_self
    have hf := hfuel
    simp only [List.flatMap_cons, List.length_append, Piece.chars] at hf
    obtain ⟨fuel', hfuel', h⟩ := fillChars_pieces lookup σ depth ps rest (fuel - s.toList.length)
      (s.toList.reverse ++ acc) (fun p hp => hplain p (List.mem_cons_of_mem _ hp)) hlook.tail (by omega)
    refine ⟨fuel', hfuel', ?_⟩
    rw [List.flatMap_cons, Piece.chars, List.append_assoc,
      fillChars_plain_append lookup depth _ _ _ _ hs (by omega)]
    simpa [Piece.fill] using h
  | .field n :: ps, rest, fuel, acc, hplain, hlook, hfuel => by
    have hn := hplain _ List.mem_cons_self
    -- a plain name has a first character, which is no digit, and only name characters
    obtain ⟨c, name, hcn⟩ : ∃ c name, n.toList = c :: name := by
      cases h : n.toList with
      | nil => simp [Piece.plain, ← String.toList_eq_nil_iff, h] at hn
      | cons c name => exact ⟨c, name, rfl⟩
    simp only [Piece.plain, hcn, List.head?_cons, Option.all_some, Bool.and_eq_true,
      Option.isNone_iff_eq_none, List.all_eq_true, decide_eq_true_eq] at hn
    obtain ⟨v, hv, hvσ⟩ := hlook n (by simp [Template.fields])
    have hname : String.ofList (c :: name) = n := by rw [← hcn, String.ofList_toList]
    have hf := hfuel
    simp only [List.flatMap_cons, List.length_append, Piece.chars, hcn, List.length_cons] at hf
    obtain ⟨fuel', hfuel', h⟩ := fillChars_pieces lookup σ depth ps rest (fuel - 1)
      (v.display.toList.reverse ++ acc) (fun p hp => hplain p (List.mem_cons_of_mem _ hp)) hlook.tail (by omega)
    refine ⟨fuel', hfuel', ?_⟩
    have hstep := fillChars_field lookup depth fuel c name (ps.flatMap Piece.chars ++ rest) acc hn.2
      hn.1.1 (hname ▸ hv) (by omega)
    rw [List.flatMap_cons, Piece.chars, hcn]
    simp only [List.cons_append, List.append_assoc, List.nil_append] at hstep ⊢
    rw [hstep, h]
    simp [Piece.fill, hvσ]

/-- **A template of plain pieces fills to its pieces**, each field replaced by the text of its
value. -/
theorem fillTemplate_pieces (lookup : String → Option Subject) (σ : String → String) (ps : List Piece)
    (hplain : ∀ p ∈ ps, p.plain = true) (hlook : LooksUp lookup σ ps) :
    fillTemplate (Template.source ps) lookup = .ok (Template.fill σ ps) := by
  obtain ⟨fuel', -, h⟩ := fillChars_pieces lookup σ 1 ps [] ((ps.flatMap Piece.chars).length + 1) [] hplain
    hlook (by simp)
  simp only [List.append_nil] at h
  simp only [fillTemplate, fillAt, Template.source, String.toList_ofList]
  rw [h, fillChars_nil]
  simp [Template.fill]

end Text

namespace Vehicle

open Text

/-- Named values that reuse none of the names a request or a template fills itself. -/
def FreshNames (named : List (String × Value)) : Prop :=
  ∀ kv ∈ named, kv.1 ∉ requestNames ∧ kv.1 ∉ templateNames

def AccountConfig.homeRegion (a : AccountConfig) : String :=
  if a.homeRegionUrl.isEmpty then defaultHomeRegion else a.homeRegionUrl

/-- **An address reads the account's brand, country and home region only.** -/
theorem AccountConfig.brandUrl_congr {a a' : AccountConfig} (hb : a.brand = a'.brand) (hc : a.country = a'.country)
    (hh : a.homeRegion = a'.homeRegion) : a.brandUrl = a'.brandUrl := by
  unfold AccountConfig.homeRegion at hh
  funext template vin query named
  simp only [AccountConfig.brandUrl, AccountConfig.baseUrl, hb, hc, hh]

/-- The text a field of an address gets: the account's brand and country, the vehicle, the home
region, or the text of the request's own named value. -/
def AccountConfig.fieldText (a : AccountConfig) (vin : String) (named : List (String × Value)) (k : String) :
    String :=
  if k = "brand" then a.brand
  else if k = "country" then a.country
  else if k = "vin" then vin
  else if k = "home_region" then a.homeRegion
  else ((named.lookup k).map Value.display).getD ""

def AccountConfig.fieldLookup (a : AccountConfig) (vin : String) (named : List (String × Value)) (k : String) :
    Option Subject :=
  match k with
  | "brand" => some (.value (.str a.brand))
  | "country" => some (.value (.str a.country))
  | "vin" => some (.value (.str vin))
  | "home_region" => some (.value (.str a.homeRegion))
  | _ => (named.find? (·.1 == k)).map (.value ·.2)

theorem find?_key_eq_lookup (named : List (String × Value)) (k : String) :
    (named.find? (·.1 == k)).map (·.2) = named.lookup k := by
  induction named with
  | nil => rfl
  | cons kv named ih =>
    obtain ⟨k', v⟩ := kv
    by_cases h : k' = k
    · subst h; simp
    · have h' : (k == k') = false := by simpa [beq_iff_eq] using Ne.symm h
      simp [h, h', List.lookup_cons, ih]

/-- Every field a template names is looked up, with the text `fieldText` gives, when the request's
named values cover the fields the account does not fill. -/
theorem looksUp_fieldLookup (a : AccountConfig) (vin : String) (named : List (String × Value)) (ps : List Piece)
    (hcover : ∀ n ∈ Template.fields ps, n ∈ templateNames ∨ ∃ v, named.lookup n = some v) :
    LooksUp (a.fieldLookup vin named) (a.fieldText vin named) ps := by
  intro n hn
  unfold AccountConfig.fieldLookup AccountConfig.fieldText
  split
  · exact ⟨_, rfl, rfl⟩
  · exact ⟨_, rfl, rfl⟩
  · exact ⟨_, rfl, rfl⟩
  · exact ⟨_, rfl, rfl⟩
  · rename_i h1 h2 h3 h4
    -- a field the account does not fill is one of the request's own
    obtain ⟨v, hv⟩ : ∃ v, named.lookup n = some v := by
      rcases hcover n hn with h | h
      · simp [templateNames] at h
        rcases h with rfl | rfl | rfl | rfl <;> simp_all
      · exact h
    have hfind := find?_key_eq_lookup named n
    rw [hv] at hfind
    obtain ⟨kv, hkv, hkv2⟩ := Option.map_eq_some_iff.1 hfind
    refine ⟨v, by simp [hkv, hkv2], ?_⟩
    rw [if_neg h1, if_neg h2, if_neg h3, if_neg h4, hv]
    rfl

/-- **Where a request goes.**  For a template of plain pieces whose fields the account and the
request's fresh named values fill, without a query: the filled path is the address when the template
or the path holds `://`, and a path under the brand's base address otherwise. -/
theorem AccountConfig.brandUrl_pieces (a : AccountConfig) (ps : List Piece) (vin : String)
    (named : List (String × Value)) (hplain : ∀ p ∈ ps, p.plain = true) (hfresh : FreshNames named)
    (hcover : ∀ n ∈ Template.fields ps, n ∈ templateNames ∨ ∃ v, named.lookup n = some v) :
    a.brandUrl (Template.source ps) vin [] named =
      let path := Template.fill (a.fieldText vin named) ps
      if (Template.source ps).contains "://" || path.contains "://" then .ok path
      else (· ++ "/" ++ path) <$> a.baseUrl := by
  have hreq : named.find? (fun kv => requestNames.contains kv.1) = none :=
    List.find?_eq_none.2 fun kv hkv => by simpa using (hfresh kv hkv).1
  have htpl : named.find? (fun kv => templateNames.contains kv.1) = none :=
    List.find?_eq_none.2 fun kv hkv => by simpa using (hfresh kv hkv).2
  have hfill := fillTemplate_pieces (a.fieldLookup vin named) (a.fieldText vin named) ps hplain
    (looksUp_fieldLookup a vin named ps hcover)
  simp only [AccountConfig.brandUrl, hreq, htpl, List.isEmpty_nil, if_true]
  -- the account's lookup of the fields is `fieldLookup`, once unfolded
  erw [hfill]
  simp only [bind, Except.bind, pure, Except.pure]
  split <;> cases a.baseUrl <;> rfl

/-- **The brands that have a base address**: Audi, VW and Volkswagen, in any letter case. -/
theorem AccountConfig.baseUrl_isOk_iff (a : AccountConfig) :
    (∃ base, a.baseUrl = .ok base) ↔ Text.lower a.brand ∈ ["audi", "vw", "volkswagen"] := by
  simp only [AccountConfig.baseUrl]
  split_ifs with h1 h2
  · simp_all
  · simp only [Bool.or_eq_true, beq_iff_eq] at h2
    rcases h2 with h2 | h2 <;> simp [h2]
  · simp only [Bool.or_eq_true, beq_iff_eq, not_or] at h2
    simp only [beq_iff_eq] at h1
    simp [h1, h2.1, h2.2]

/-- A template that fills the brand and the country after `pre` and goes on with `rest`. -/
def underBrand (pre : String) (rest : List Piece) : List Piece :=
  .text pre :: .field "brand" :: .text "/" :: .field "country" :: rest

/-- The address templates of the vehicle service, each with its pieces. -/
def serviceTemplates : List (String × List Piece) :=
  [(tokenUri, underBrand "core/auth/v1/" [.text "/token"]),
   (identityTokenUrl, [.text "https://id.audi.com/v1/token"]),
   (securityTokenUrl, [.text "https://mbboauth-1d.prd.ece.vwg-connect.com/mbbcoauth/mobile/oauth2/v1/token"]),
   (vehicleListUri, underBrand "usermanagement/users/v1/" [.text "/vehicles"]),
   (vehicleDetailsUri, underBrand "promoter/portfolio/v1/" [.text "/vehicle/", .field "vin", .text "/carportdata"]),
   (vehicleStatusUri, underBrand "bs/vsr/v1/" [.text "/vehicles/", .field "vin", .text "/status"]),
   (vehiclePositionUri, underBrand "bs/cf/v1/" [.text "/vehicles/", .field "vin", .text "/position"]),
   (storedPositionUri, underBrand "bs/cf/v1/" [.text "/vehicles/", .field "vin", .text "/storedPosition"]),
   (destinationsUri, underBrand "destinationfeedservice/mydestinations/v1/"
      [.text "/vehicles/", .field "vin", .text "/destinations"]),
   (historyUri, underBrand "bs/dwap/v1/" [.text "/vehicles/", .field "vin", .text "/history"]),
   (managementInfoUri, underBrand "vehicleMgmt/vehicledata/v2/" [.text "/vehicles/", .field "vin"]),
   (vehicleDataUri, underBrand "promoter/portfolio/v1/" [.text "/vehicle/", .field "vin", .text "/data"]),
   (vehicleRightsUri, underBrand "rolesrights/permissions/v1/"
      [.text "/vehicles/", .field "vin", .text "/fetched-permissions"]),
   (vehicleUsersUri, [.text "bs/uic/v1/vin/", .field "vin", .text "/users"]),
   (climaterTimerUri, underBrand "bs/departuretimer/v1/" [.text "/vehicles/", .field "vin", .text "/timer"]),
   (climaterStatusUri, underBrand "bs/climatisation/v1/" [.text "/vehicles/", .field "vin", .text "/climater"]),
   (climaterActionUri, underBrand "bs/climatisation/v1/"
      [.text "/vehicles/", .field "vin", .text "/climater/actions"]),
   (chargerStatusUri, underBrand "bs/batterycharge/v1/" [.text "/vehicles/", .field "vin", .text "/charger"]),
   (tripDataUri, underBrand "bs/tripstatistics/v1/"
      [.text "/vehicles/", .field "vin", .text "/tripdata/", .field "trip_type"]),
   (poisUri, underBrand "b2c/poinav/v1/" [.text "/vehicles/", .field "vin", .text "/pois"]),
   (lockActionsUri, underBrand "bs/rlu/v1/" [.text "/vehicles/", .field "vin", .text "/actions"]),
   (preHeaterActionUri, underBrand "bs/rs/v1/" [.text "/vehicles/", .field "vin", .text "/action"]),
   (homeRegionUri, [.text "https://mal-1a.prd.ece.vwg-connect.com/api/cs/vds/v1/vehicles/", .field "vin",
      .text "/homeRegion"]),
   (operationListUri, [.field "home_region", .text "/rolesrights/operationlist/v3/vehicles/", .field "vin"]),
   (pinRequestUri, [.field "home_region", .text "/rolesrights/authorization/v2/vehicles/", .field "vin",
      .text "/services/", .field "action", .text "/security-pin-auth-requested"]),
   (pinCompleteUri, [.field "home_region", .text "/rolesrights/authorization/v2/security-pin-auth-completed"])]

theorem serviceTemplates_pieces : ∀ tp ∈ serviceTemplates, Template.source tp.2 = tp.1 := by
  decide

theorem serviceTemplates_plain : ∀ tp ∈ serviceTemplates, ∀ p ∈ tp.2, p.plain = true := by
  decide

/-- **A template of the service that names only the account's fields has an address** under every
account whose brand has a base address, for every vehicle. -/
theorem serviceTemplate_address (a : AccountConfig) (hbase : ∃ base, a.baseUrl = .ok base) (vin : String)
    {tp : String × List Piece} (htp : tp ∈ serviceTemplates)
    (hnames : ∀ n ∈ Template.fields tp.2, n ∈ templateNames) :
    ∃ url, a.brandUrl tp.1 vin [] [] = .ok url := by
  have h := AccountConfig.brandUrl_pieces a tp.2 vin [] (serviceTemplates_plain tp htp) (by simp [FreshNames])
    fun n hn => .inl (hnames n hn)
  rw [serviceTemplates_pieces tp htp] at h
  rw [h]
  obtain ⟨base, hb⟩ := hbase
  dsimp only
  -- an absolute path is the address itself, any other goes under the base address
  split
  · exact ⟨_, rfl⟩
  · exact ⟨_, by rw [hb]; rfl⟩

/-- **Where the requests of the vehicle service go.**  A brand has a base address exactly when it
is Audi, VW or Volkswagen in any letter case.  Every address template of the service is its pieces,
and under every account, for every vehicle and every named value that reuses no name the request or
the template fills and gives the template's other fields their values, without a query: the
template fills with each field replaced by the text of its value, and the filled path is the address
when the template or the path holds `://`, and a path under the brand's base address otherwise. -/
theorem serviceAddress_law :
    (∀ a : AccountConfig, (∃ base, a.baseUrl = .ok base) ↔ Text.lower a.brand ∈ ["audi", "vw", "volkswagen"]) ∧
    ∀ tp ∈ serviceTemplates, Template.source tp.2 = tp.1 ∧
      ∀ (a : AccountConfig) (vin : String) (named : List (String × Value)), FreshNames named →
        (∀ n ∈ Template.fields tp.2, n ∈ templateNames ∨ ∃ v, named.lookup n = some v) →
        a.brandUrl tp.1 vin [] named =
          let path := Template.fill (a.fieldText vin named) tp.2
          if tp.1.contains "://" || path.contains "://" then .ok path
          else (· ++ "/" ++ path) <$> a.baseUrl := by
  refine ⟨AccountConfig.baseUrl_isOk_iff, fun tp htp => ⟨serviceTemplates_pieces tp htp, ?_⟩⟩
  intro a vin named hfresh hcover
  have h := AccountConfig.brandUrl_pieces a tp.2 vin named (serviceTemplates_plain tp htp) hfresh hcover
  rwa [serviceTemplates_pieces tp htp] at h

/-- The law for the trip statistics of a vehicle, whose template names the kind of trip. -/
theorem serviceAddress_law_tripData :
    let tp : String × List Piece := (tripDataUri, underBrand "bs/tripstatistics/v1/"
      [.text "/vehicles/", .field "vin", .text "/tripdata/", .field "trip_type"])
    let a : AccountConfig := { user := "u", password := "p" }
    let named : List (String × Value) := [("trip_type", .str "shortTerm")]
    (tp ∈ serviceTemplates ∧ FreshNames named ∧
      ∀ n ∈ Template.fields tp.2, n ∈ templateNames ∨ ∃ v, named.lookup n = some v) ∧
    a.brandUrl tp.1 "V" [] named =
      let path := Template.fill (a.fieldText "V" named) tp.2
      if tp.1.contains "://" || path.contains "://" then .ok path
      else (· ++ "/" ++ path) <$> a.baseUrl := by
  intro tp a named
  have hmem : tp ∈ serviceTemplates := by decide
  have hfresh : FreshNames named := by simp [FreshNames, named, requestNames, templateNames]
  have hcover : ∀ n ∈ Template.fields tp.2, n ∈ templateNames ∨ ∃ v, named.lookup n = some v := by
    simp [tp, named, Template.fields, underBrand, templateNames, List.lookup_cons]
  exact ⟨⟨hmem, hfresh, hcover⟩, (serviceAddress_law.2 tp hmem).2 a "V" named hfresh hcover⟩

/-- **A relative template can fill to an address outside the base address**: the operations of a
vehicle, filled with the default home region, are asked of the home region itself, not of a path
under the brand's base address. -/
theorem operationList_address_not_under_base :
    let a : AccountConfig := { user := "u", password := "p" }
    let path := "https://mal-1a.prd.ece.vwg-connect.com/api/rolesrights/operationlist/v3/vehicles/V"
    operationListUri.contains "://" = false ∧ a.baseUrl = .ok audiBaseUrl ∧
      a.brandUrl operationListUri "V" [] [] = .ok path ∧
      a.brandUrl operationListUri "V" [] [] ≠ .ok (audiBaseUrl ++ "/" ++ path) := by
  intro a path
  let ps : List Piece := [.field "home_region", .text "/rolesrights/operationlist/v3/vehicles/", .field "vin"]
  have hsrc : Template.source ps = operationListUri := by decide
  have hfill : Template.fill (a.fieldText "V" []) ps = path := by decide
  have hrel : operationListUri.contains "://" = false := by
    simp [operationListUri, String.contains_string_eq_internal]
    decide
  have habs : path.contains "://" = true := by
    simp [path, String.contains_string_eq_internal]
    decide
  have hlower : Text.lower "Audi" = "audi" := by
    simp [Text.lower, Text.lowerOf, Text.lowerChars, Text.capitalSigma]
  have hbase : a.baseUrl = .ok audiBaseUrl := by
    simp [AccountConfig.baseUrl, a, brandAudi, hlower]
  have hurl : a.brandUrl operationListUri "V" [] [] = .ok path := by
    have hcover : ∀ n ∈ Template.fields ps, n ∈ templateNames ∨ ∃ v, ([] : List (String × Value)).lookup n = some v := by
      intro n hn
      simp only [ps, Template.fields, List.filterMap_cons, List.filterMap_nil, List.mem_cons,
        List.not_mem_nil, or_false] at hn
      rcases hn with rfl | rfl <;> simp [templateNames]
    have h := AccountConfig.brandUrl_pieces a ps "V" [] (by decide) (by simp [FreshNames]) hcover
    rw [hsrc, hfill, hrel] at h
    simpa only [habs, Bool.false_or, if_true] using h
  refine ⟨hrel, hbase, hurl, ?_⟩
  rw [hurl]
  intro h
  have hlen := congrArg String.length (Except.ok.inj h)
  exact absurd hlen (by decide)

end Vehicle
end ConnectedHome
