import StorageAccess.Proofs.Sas.IssuedToken
import StorageAccess.Proofs.Sas.Letters

/-! How the sets of a grant are spelled. Letters may come in any order and as often as one likes: a token
has the letters in one order, and so has what its signature covers. -/
namespace StorageAccess

/-- Whether texts have the same letters. -/
def SameLetters (s t : String) : Prop := ∀ c, c ∈ s.toList ↔ c ∈ t.toList

theorem sameLetters_iff {s t : String} : SameLetters s t ↔
    s.toList.all t.toList.contains = true ∧ t.toList.all s.toList.contains = true := by
  simp only [SameLetters, List.all_eq_true, List.contains_iff_mem]
  exact ⟨fun h => ⟨fun c => (h c).mp, fun c => (h c).mpr⟩, fun h c => ⟨h.1 c, h.2 c⟩⟩

instance (s t : String) : Decidable (SameLetters s t) := decidable_of_iff _ sameLetters_iff.symm

/-- The letters of a text, each once, in the order in which they are declared. -/
def inDeclaredOrder (declared s : String) : String :=
  String.ofList (declared.toList.filter s.toList.contains)

/-- What sets are read from and written as, where `declared` has a letter for each thing. -/
structure IsSpelling (α : Type) [Coded α] [DecidableEq α] (declared : String) : Prop where
  distinct : declared.toList.Nodup
  accepts (s : String) : (∃ set : CodeSet α, CodeSet.ofText s = .ok set) ↔
    ∀ c ∈ s.toList, c ∈ declared.toList
  refuses (s : String) (c : Char) (h : s.toList.find? (fun c => !declared.toList.contains c) = some c) :
    (CodeSet.ofText s : Except Error (CodeSet α)) = .error (CodeSet.unknownLetter α c s)
  agrees (s t : String) (set other : CodeSet α) (hs : CodeSet.ofText s = .ok set)
    (ht : CodeSet.ofText t = .ok other) : set = other ↔ SameLetters s t
  writes (s : String) (set : CodeSet α) (h : CodeSet.ofText s = .ok set) :
    set.text = inDeclaredOrder declared s
  reads (set : CodeSet α) : CodeSet.ofText set.text = .ok set

theorem isSpelling_of_letters {α : Type} [Coded α] [DecidableEq α] {declared : String}
    (h : CodeSet.letters α = declared.toList) : IsSpelling α declared where
  distinct := h ▸ CodeSet.nodup_letters
  accepts s := by
    rw [← h]
    constructor
    · rintro ⟨set, hset⟩
      exact (CodeSet.ofText_eq_ok_iff.mp hset).1
    · intro hall
      exact ⟨_, CodeSet.ofText_eq_ok_iff.mpr ⟨hall, rfl⟩⟩
  refuses s c hc := by
    rw [← h] at hc
    exact CodeSet.foldlM_addLetter_of_find? s hc _
  agrees s t set other hs ht := by
    obtain ⟨hall, rfl⟩ := CodeSet.ofText_eq_ok_iff.mp hs
    obtain ⟨hother, rfl⟩ := CodeSet.ofText_eq_ok_iff.mp ht
    exact CodeSet.ofLetters_eq_iff hall hother
  writes s set hs := by
    obtain ⟨-, rfl⟩ := CodeSet.ofText_eq_ok_iff.mp hs
    rw [CodeSet.text_ofLetters, h]
    rfl
  reads := CodeSet.ofText_text

/-- The sets of a grant as somebody spells them. -/
structure Wording where
  permissions : String
  services : String
  resourceTypes : String

def Wording.SameLetters (w v : Wording) : Prop :=
  StorageAccess.SameLetters w.permissions v.permissions ∧
    StorageAccess.SameLetters w.services v.services ∧
      StorageAccess.SameLetters w.resourceTypes v.resourceTypes

namespace AccountGrant

/-- The same grant of what is spelled. -/
def worded (g : AccountGrant) (w : Wording) : Except Error AccountGrant := do
  let permissions ← CodeSet.ofText w.permissions
  let services ← CodeSet.ofText w.services
  let resourceTypes ← CodeSet.ofText w.resourceTypes
  return { g with
    policy := { g.policy with permissions := permissions }
    services := services
    resourceTypes := resourceTypes }

theorem worded_eq_ok {g h : AccountGrant} {w : Wording} (hw : g.worded w = .ok h) :
    CodeSet.ofText w.permissions = .ok h.policy.permissions ∧
      CodeSet.ofText w.services = .ok h.services ∧
      CodeSet.ofText w.resourceTypes = .ok h.resourceTypes ∧
      h = { g with
        policy := { g.policy with permissions := h.policy.permissions }
        services := h.services
        resourceTypes := h.resourceTypes } := by
  obtain ⟨permissions, hp, hw⟩ := bind_eq_ok.mp hw
  obtain ⟨services, hs, hw⟩ := bind_eq_ok.mp hw
  obtain ⟨resourceTypes, hr, hw⟩ := bind_eq_ok.mp hw
  rw [pure_eq_ok.mp hw]
  exact ⟨hp, hs, hr, rfl⟩

/-- The sets of a token are written in the order of declaration. -/
theorem fields_of_token {g : AccountGrant} {t : SasToken} (h : g.token.outcome = .ok t) :
    t.field "sp" = g.policy.permissions.text ∧ t.field "ss" = g.services.text ∧
      t.field "srt" = g.resourceTypes.text := by
  obtain ⟨u, hu, rfl⟩ := token_eq_ok.mp h
  obtain ⟨permissions, hp, hlayout⟩ := exists_fields_of_unsigned hu
  have hpermissions : permissions = g.policy.permissions.text := by
    rw [(CodeSet.inOrder_eq_ok_iff.mp hp).2, CodeSet.text_eq_filter]
    rfl
  have hd : ((g.fields permissions).map (·.1)).Nodup := (by decide : fieldNames.Nodup)
  have hfield {name value : String} (hm : (name, value) ∈ g.fields permissions) (hne : "sig" ≠ name) :
      (u.push "sig" (g.key.sign (u.accountStringToSign g.account))).field name = value := by
    rw [SasToken.field_push_of_ne hne, hlayout, SasToken.field_foldl_push hd hm]
  rw [← hpermissions]
  exact ⟨hfield (by simp [fields]) (by decide), hfield (by simp [fields]) (by decide),
    hfield (by simp [fields]) (by decide)⟩

end AccountGrant

/-- How sets are spelled does not matter. A token is the same for all wordings with the same letters, and has
each letter once. -/
theorem token_of_sameLetters :
    IsSpelling Permission "racwdlup" ∧ IsSpelling Service "bqtf" ∧ IsSpelling ResourceType "sco" ∧
      ∀ (g h k : AccountGrant) (w v : Wording), g.worded w = .ok h → g.worded v = .ok k →
        w.SameLetters v →
        h.token = k.token ∧
          ∀ t, h.token.outcome = .ok t →
            t.field "sp" = inDeclaredOrder "racwdlup" w.permissions ∧
              t.field "ss" = inDeclaredOrder "bqtf" w.services ∧
              t.field "srt" = inDeclaredOrder "sco" w.resourceTypes := by
  have hpermission : IsSpelling Permission "racwdlup" := isSpelling_of_letters rfl
  have hservice : IsSpelling Service "bqtf" := isSpelling_of_letters rfl
  have htype : IsSpelling ResourceType "sco" := isSpelling_of_letters rfl
  refine ⟨hpermission, hservice, htype, ?_⟩
  rintro g h k w v hw hv ⟨hp, hs, hr⟩
  obtain ⟨hwp, hws, hwr, hh⟩ := AccountGrant.worded_eq_ok hw
  obtain ⟨hvp, hvs, hvr, hk⟩ := AccountGrant.worded_eq_ok hv
  constructor
  · rw [hh, hk, (hpermission.agrees _ _ _ _ hwp hvp).mpr hp, (hservice.agrees _ _ _ _ hws hvs).mpr hs,
      (htype.agrees _ _ _ _ hwr hvr).mpr hr]
  · intro t ht
    obtain ⟨hsp, hss, hsrt⟩ := AccountGrant.fields_of_token ht
    exact ⟨hsp.trans (hpermission.writes _ _ hwp), hss.trans (hservice.writes _ _ hws),
      hsrt.trans (htype.writes _ _ hwr)⟩

/-- Three letters, one of them twice. -/
def repeatedWording : Wording := ⟨"wrw", "fb", "os"⟩

def plainWording : Wording := ⟨"rw", "bf", "so"⟩

/-- What the repeated wording is read as. -/
def rereadGrant : AccountGrant :=
  { momentGrant with
    policy := { momentGrant.policy with permissions := ((CodeSet.empty.add .write).add .read).add .write }
    services := (CodeSet.empty.add .file).add .blob
    resourceTypes := (CodeSet.empty.add .object).add .service }

theorem token_of_sameLetters_repeatedWording :
    momentGrant.worded repeatedWording = .ok rereadGrant ∧ repeatedWording.SameLetters plainWording ∧
      ∃ k, momentGrant.worded plainWording = .ok k ∧ rereadGrant.token = k.token ∧
        ∃ t, rereadGrant.token.outcome = .ok t ∧
          t.field "sp" = "rw" ∧ t.field "ss" = "bf" ∧ t.field "srt" = "so" := by
  have hw : momentGrant.worded repeatedWording = .ok rereadGrant := rfl
  have hsame : repeatedWording.SameLetters plainWording := by
    refine ⟨?_, ?_, ?_⟩ <;> decide
  have hv := (rfl : momentGrant.worded plainWording = .ok _)
  have ht := AccountGrant.token_eq_ok.mpr ⟨_, (rfl : rereadGrant.unsigned = .ok _), rfl⟩
  obtain ⟨hequal, hfields⟩ :=
    token_of_sameLetters.2.2.2 momentGrant rereadGrant _ repeatedWording plainWording hw hv hsame
  exact ⟨hw, hsame, _, hv, hequal, _, ht, hfields _ ht⟩

end StorageAccess
