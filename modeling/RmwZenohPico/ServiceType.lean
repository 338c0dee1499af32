import RmwZenohPico.EndpointMatching

namespace RmwZenohPico.ServiceType

open Lib.CBuffer TopicKey EndpointMatching

def requestSuffix : List Char := ['_', 'R', 'e', 'q', 'u', 'e', 's', 't']

/-- The array is cleared before the part of the name is copied to it. A name
that is NULL is handed to strstr. -/
def convertClientType (allocated : Bool) (callbacks : MessageNames) : Except Failure CString :=
  match callbacks.messageName with
  | none => .error .undefined
  | some messageName =>
      match strstr messageName.chars requestSuffix with
      | none => .error .error
      | some suffixPosition => do
          let memory ← defined (store (List.replicate 128 nul) 0 (messageName.chars.take suffixPosition))
          let serviceType ← defined (readString memory)
          convertMessageType allocated ⟨callbacks.messageNamespace, some serviceType⟩

def requestName (service : CString) : CString where
  chars := service.chars ++ requestSuffix
  terminated := by
    rw [List.mem_append, not_or]
    exact ⟨service.terminated, by decide⟩

def requestNames (ns service : CString) : MessageNames := ⟨ns, some (requestName service)⟩

def firstChars (s : CString) (n : Nat) : CString :=
  ⟨s.chars.take n, fun h => s.terminated (List.mem_of_mem_take h)⟩

def CompleteOrRefused (ns service : CString) : Prop :=
  ∀ allocated, convertClientType allocated (requestNames ns service) = .error .error ∨
    ∃ type, convertClientType allocated (requestNames ns service) = .ok type ∧
      type.chars = typeName ns.chars service.chars

structure TypeFits (ns service : CString) : Prop where
  suffix : ¬requestSuffix <:+: service.chars
  length : (typeName ns.chars service.chars).length ≤ 127

theorem typeName_length (ns service : List Char) :
    (typeName ns service).length = ns.length + service.length + 9 := by
  simp only [typeName, ddsInfix, List.length_append, List.length_cons, List.length_nil]
  omega

theorem serviceType_read {text : List Char} (ht : nul ∉ text) (h : text.length ≤ 127) :
    ∃ memory, store (List.replicate 128 nul) 0 text = some memory ∧ readString memory = some ⟨text, ht⟩ := by
  have hfits : text.length ≤ (List.replicate 128 nul).length := by
    rw [List.length_replicate]
    omega
  have hstore := store_append [] hfits
  have hsucc : 128 - text.length = (127 - text.length) + 1 := by omega
  rw [List.drop_replicate, hsucc, List.replicate_succ] at hstore
  exact ⟨_, hstore, readString_written ⟨_, rfl⟩ ht⟩

theorem serviceType_overrun {text : List Char} (ht : nul ∉ text) (h : 127 < text.length) :
    ((defined (store (List.replicate 128 nul) 0 text)) >>= fun memory => defined (readString memory)) =
      .error .undefined := by
  by_cases hfull : text.length = 128
  · have hfits : text.length ≤ (List.replicate 128 nul).length := by
      rw [List.length_replicate]
      omega
    have hdrop : (List.replicate 128 nul).drop text.length = [] := by
      rw [hfull]
      rfl
    have hstore : store (List.replicate 128 nul) 0 text = some text := by
      have happend := store_append [] hfits
      rw [hdrop, List.nil_append, List.append_nil] at happend
      exact happend
    have hread : readString text = none := if_neg ht
    rw [hstore, defined_some, ok_bind, hread]
    rfl
  · have hout : ¬((0 : Int) ≤ 0 ∧ (0 : Int).toNat + text.length ≤ (List.replicate 128 nul).length) := by
      rw [List.length_replicate]
      omega
    rw [store, if_neg hout]
    rfl

/-- The type is made of the name up to the first place where the suffix
stands, if that part and a terminator fit the array. -/
theorem convertClientType_first (allocated : Bool) (ns service : CString) :
    ∃ k ≤ service.chars.length, (k = service.chars.length ↔ ¬requestSuffix <:+: service.chars) ∧
      convertClientType allocated (requestNames ns service) =
        if k ≤ 127 then convertMessageType allocated ⟨ns, some (firstChars service k)⟩
        else .error .undefined := by
  have hsuffix : '_' ∉ ['R', 'e', 'q', 'u', 'e', 's', 't'] := by decide
  obtain ⟨k, hk, hstr, hiff⟩ := strstr_append hsuffix service.chars
  have hpart : (requestName service).chars.take k = service.chars.take k :=
    List.take_append_of_le_length hk
  have ht : nul ∉ service.chars.take k := (firstChars service k).terminated
  have hlen : (service.chars.take k).length = k := List.length_take_of_le hk
  refine ⟨k, hk, hiff, ?_⟩
  change (match strstr (requestName service).chars requestSuffix with
    | none => Except.error Failure.error
    | some suffixPosition => _) = _
  change strstr (requestName service).chars requestSuffix = some k at hstr
  simp only [hstr, requestNames, hpart]
  split
  · rename_i hfits
    obtain ⟨memory, hstore, hread⟩ := serviceType_read ht (by omega)
    rw [hstore, defined_some, ok_bind, hread]
    rfl
  · rename_i hfits
    have hover := serviceType_overrun ht (by omega)
    rw [← bind_assoc, hover]
    rfl

theorem TypeFits.convertClientType_eq (allocated : Bool) {ns service : CString} (h : TypeFits ns service) :
    ∃ ht, convertClientType allocated (requestNames ns service) =
      if allocated then .ok ⟨typeName ns.chars service.chars, ht⟩ else .error .error := by
  obtain ⟨k, hk, hiff, heq⟩ := convertClientType_first allocated ns service
  obtain rfl := hiff.mpr h.suffix
  have hlength := h.length
  rw [typeName_length] at hlength
  have hwhole : firstChars service service.chars.length = service := CString.ext_chars List.take_length
  rw [heq, if_pos (by omega), hwhole]
  exact convertMessageType_eq allocated ns service h.length

theorem TypeFits.completeOrRefused {ns service : CString} (h : TypeFits ns service) :
    CompleteOrRefused ns service := by
  intro allocated
  obtain ⟨ht, heq⟩ := h.convertClientType_eq allocated
  rw [heq]
  cases allocated with
  | false => exact Or.inl rfl
  | true => exact Or.inr ⟨_, rfl, rfl⟩

theorem typeFits_of_completeOrRefused {ns service : CString} (h : CompleteOrRefused ns service) :
    TypeFits ns service := by
  obtain ⟨k, hk, hiff, heq⟩ := convertClientType_first true ns service
  have hcomplete := h true
  rw [heq] at hcomplete
  split at hcomplete
  · obtain ⟨ht, hcut⟩ := convertMessageType_cut true ns (firstChars service k)
    rw [hcut, if_pos rfl] at hcomplete
    rcases hcomplete with herror | ⟨type, hok, hwhole⟩
    · cases herror
    · cases hok
      have hlen := congrArg List.length hwhole
      have hpart : (firstChars service k).chars.length = k := List.length_take_of_le hk
      simp only [List.length_take, typeName_length, hpart] at hlen
      refine ⟨hiff.mp (by omega), ?_⟩
      rw [typeName_length]
      omega
  · rcases hcomplete with herror | ⟨type, hok, -⟩
    · cases herror
    · cases hok

/-- The type of a service is complete exactly if its name does not hold the
suffix already and nothing is cut, and complete types differ. -/
theorem service_types_complete (ns service : CString) :
    (CompleteOrRefused ns service ↔ TypeFits ns service) ∧
      (TypeFits ns service → ':' ∉ service.chars → ∀ ns' service', TypeFits ns' service' →
        ':' ∉ service'.chars →
        convertClientType true (requestNames ns service) =
          convertClientType true (requestNames ns' service') →
        ns = ns' ∧ service = service') := by
  refine ⟨⟨typeFits_of_completeOrRefused, TypeFits.completeOrRefused⟩, ?_⟩
  intro hfits hcolon ns' service' hfits' hcolon' heq
  obtain ⟨ht, htype⟩ := hfits.convertClientType_eq true
  obtain ⟨ht', htype'⟩ := hfits'.convertClientType_eq true
  rw [htype, htype', if_pos rfl, if_pos rfl] at heq
  exact typeName_inj hcolon hcolon' (congrArg CString.chars (Except.ok.inj heq))

def demo : CString := ⟨['d', 'e', 'm', 'o'], by decide⟩

def addition : CString := ⟨['A', 'd', 'd'], by decide⟩

def division : CString := ⟨['D', 'i', 'v'], by decide⟩

theorem demo_fits : TypeFits demo addition ∧ TypeFits demo division :=
  ⟨⟨by decide, by decide⟩, ⟨by decide, by decide⟩⟩

theorem demo_types_differ : CompleteOrRefused demo addition ∧
    convertClientType true (requestNames demo addition) ≠
      convertClientType true (requestNames demo division) := by
  obtain ⟨hcomplete, hdiffer⟩ := service_types_complete demo addition
  refine ⟨hcomplete.mpr demo_fits.1, ?_⟩
  intro heq
  have hsame := hdiffer demo_fits.1 (by decide) demo division demo_fits.2 (by decide) heq
  exact absurd (congrArg CString.chars hsame.2) (by decide)

def longName (n : Nat) : CString := ⟨List.replicate n 'a', fun h => absurd (List.eq_of_mem_replicate h) (by decide)⟩

theorem longName_overrun {n : Nat} (h : 127 < n) (ns : CString) :
    convertClientType true (requestNames ns (longName n)) = .error .undefined := by
  obtain ⟨k, hk, hiff, heq⟩ := convertClientType_first true ns (longName n)
  have hnot : ¬requestSuffix <:+: (longName n).chars := by
    intro hin
    have hmem : '_' ∈ (longName n).chars := hin.subset List.mem_cons_self
    exact absurd (List.eq_of_mem_replicate hmem) (by decide)
  obtain rfl := hiff.mpr hnot
  have hlen : (longName n).chars.length = n := List.length_replicate
  rw [heq, if_neg (by omega)]

/-- A name that holds the suffix is cut there, one that is only too long for
the type loses its end, and a longer one is copied past the array. -/
theorem requested_service_cut :
    ¬CompleteOrRefused demo (requestName addition) ∧
      convertClientType true (requestNames demo (requestName addition)) =
        convertClientType true (requestNames demo addition) ∧
      ¬CompleteOrRefused demo (longName 120) ∧
      convertClientType true (requestNames demo (longName 129)) = .error .undefined := by
  refine ⟨?_, rfl, ?_, longName_overrun (by decide) demo⟩
  · intro h
    exact absurd (typeFits_of_completeOrRefused h).suffix (by decide)
  · intro h
    have hlength := (typeFits_of_completeOrRefused h).length
    have hlen : (longName 120).chars.length = 120 := List.length_replicate
    rw [typeName_length] at hlength
    omega

end RmwZenohPico.ServiceType
