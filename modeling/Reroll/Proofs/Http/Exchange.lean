import Reroll.Http.Exchange
import Reroll.Proofs.Document.Report

/-!
# When a download goes astray

Trouble on the way, a status, a body: what is wrong with a reply is a failure like any other. Two
things are not: an address that is none, and a redirect to a place that reads well but stands for
no address once it is joined with the address it answers. The latter ends a download exactly when
one of the replies on the way sends the request there (`downloadFrom_strays`).
-/

namespace Reroll.Http

variable {replies : Nat → Reply} {made left status : Nat} {url next : Url}
  {headers : List (String × String)} {body : ByteArray}

/-- The result is a failure that is not reported. -/
def Strays {α : Type} (r : Except DownloadError α) : Prop :=
  ∃ e, r = .error e ∧ e.isExpected = false

@[simp] theorem strays_ok {α : Type} {a : α} : ¬Strays (.ok a) := nofun

@[simp] theorem strays_error {α : Type} {e : DownloadError} :
    Strays (.error e : Except DownloadError α) ↔ e.isExpected = false := by
  constructor
  · rintro ⟨_, ⟨⟩, he⟩
    exact he
  · exact fun he => ⟨e, rfl, he⟩

theorem ofRedirect_isExpected {e : Url.RedirectError} :
    (DownloadError.ofRedirect e).isExpected = false ↔ ∃ a, e = .address a := by
  cases e <;> simp [DownloadError.ofRedirect, DownloadError.isExpected]

/-- A response that can be used sends the request to a place that stands for no address. -/
def SendsAstray (url : Url) (status : Nat) (headers : List (String × String))
    (body : ByteArray) : Prop :=
  ∃ unpacked location e, receive headers body = .ok unpacked ∧ url.scheme.isEmpty = false ∧
    Host.isBounded url.host.toList = true ∧ redirect? status headers = some location ∧
    url.redirected location = .error (.address e)

theorem receive_strays : ¬Strays (receive headers body) := by
  unfold receive
  split
  · simp [DownloadError.isExpected]
  · split <;> simp [DownloadError.isExpected]

theorem redirected_strays (url : Url) (location : String) :
    Strays (Sum.inr (α := ByteArray) <$>
        (url.redirected location).mapError DownloadError.ofRedirect) ↔
      ∃ e, url.redirected location = .error (.address e) := by
  cases url.redirected location with
  | ok next => exact iff_of_false strays_ok nofun
  | error e => exact strays_error.trans (ofRedirect_isExpected.trans (by simp))

theorem outcome_strays :
    Strays (outcome url status headers body) ↔ SendsAstray url status headers body := by
  unfold outcome SendsAstray
  cases hreceive : receive headers body with
  | error e =>
    have he : ¬Strays (.error e : Except DownloadError ByteArray) := hreceive ▸ receive_strays
    exact iff_of_false (fun h => he (strays_error.mpr (strays_error.mp h))) nofun
  | ok unpacked =>
    cases url.scheme.isEmpty with
    | true =>
      change Strays (.error (.noScheme url.text)) ↔ _
      simp [DownloadError.isExpected]
    | false =>
      cases Host.isBounded url.host.toList with
      | false =>
        change Strays (.error (.host url.host)) ↔ _
        simp [DownloadError.isExpected]
      | true =>
        cases redirect? status headers with
        | none =>
          change Strays (if 200 ≤ status && status < 300 then .ok (Sum.inl unpacked)
            else .error (.status status)) ↔ _
          split <;> simp [DownloadError.isExpected]
        | some location =>
          refine (redirected_strays url location).trans ?_
          simp

/-- A request may be sent to the host of an address. -/
def CanAsk (url : Url) : Prop := isAscii url.host = true ∧ Host.isReadable url.host.toList = true

/-- One of the replies to a request, and to those that redirects lead to, sends it astray. -/
inductive Astray (replies : Nat → Reply) : Nat → Url → Nat → Prop where
  | here {made left status : Nat} {url : Url} {headers : List (String × String)}
      {body : ByteArray} (hask : CanAsk url) (hreply : replies made = .response status headers body)
      (hstray : SendsAstray url status headers body) : Astray replies made url left
  | later {made left status : Nat} {url next : Url} {headers : List (String × String)}
      {body : ByteArray} (hask : CanAsk url) (hreply : replies made = .response status headers body)
      (hnext : outcome url status headers body = .ok (.inr next))
      (hrest : Astray replies (made + 1) next left) : Astray replies made url (left + 1)

theorem canAsk_iff :
    CanAsk url ↔ ¬(!isAscii url.host || !Host.isReadable url.host.toList) = true := by
  simp [CanAsk]

theorem downloadFrom_asked (hask : CanAsk url)
    (hreply : replies made = .response status headers body) :
    downloadFrom replies made url left =
      match outcome url status headers body, left with
      | .error e, _ => ⟨[.get url], .error e⟩
      | .ok (.inl body), _ => ⟨[.get url], .ok body⟩
      | .ok (.inr _), 0 => ⟨[.get url], .error .tooManyRedirects⟩
      | .ok (.inr next), left + 1 =>
        let rest := downloadFrom replies (made + 1) next left
        ⟨.get url :: rest.requests, rest.result⟩ := by
  have hsent := downloadFrom.eq_def replies made url left
  rw [if_neg (canAsk_iff.mp hask), hreply] at hsent
  exact hsent

/-- The cases are those of a single request: it is not sent, it fails, its response cannot be used,
gives a body, or sends it on, in vain or not. -/
theorem astray_of_strays :
    Strays (downloadFrom replies made url left).result → Astray replies made url left := by
  fun_induction downloadFrom replies made url left with
  | case1 => exact fun h => absurd (strays_error.mp h) nofun
  | case2 => exact fun h => absurd (strays_error.mp h) nofun
  | case3 left made url hask status headers body hreply e houtcome =>
    intro h
    have hstrays : Strays (outcome url status headers body) := ⟨e, houtcome, strays_error.mp h⟩
    exact .here (canAsk_iff.mpr hask) hreply (outcome_strays.mp hstrays)
  | case4 => exact fun h => absurd h strays_ok
  | case5 => exact fun h => absurd (strays_error.mp h) nofun
  | case6 made url hask status headers body hreply next left houtcome rest ih =>
    exact fun h => .later (canAsk_iff.mpr hask) hreply houtcome (ih h)

/-- A download ends in a failure that is not reported exactly when a reply sends it astray. -/
theorem downloadFrom_strays :
    Strays (downloadFrom replies made url left).result ↔ Astray replies made url left := by
  refine ⟨astray_of_strays, fun h => ?_⟩
  induction h with
  | here hask hreply hstray =>
    obtain ⟨e, he, hunexpected⟩ := outcome_strays.mpr hstray
    rw [downloadFrom_asked hask hreply, he]
    exact strays_error.mpr hunexpected
  | later hask hreply hnext _ ih =>
    rw [downloadFrom_asked hask hreply, hnext]
    exact ih

/-- What is asked for has no address, or a reply sends a request astray. -/
def BreaksAddress (replies : Nat → Reply) (made : Nat) : Value → Prop
  | .text s =>
    match Url.ofText s with
    | .error _ => True
    | .ok u => Astray replies made (if u.isAbsolute then u else u.pathOnly) redirectLimit
  | _ => True

theorem download_strays (v : Value) :
    Strays (download replies made v).result ↔ BreaksAddress replies made v := by
  cases v with
  | text s =>
    unfold download BreaksAddress
    cases hurl : Url.ofText s with
    | error e => simp [hurl, DownloadError.isExpected]
    | ok u =>
      simp only [hurl]
      exact downloadFrom_strays
  | _ => exact iff_of_true ⟨_, rfl, rfl⟩ trivial

end Reroll.Http
