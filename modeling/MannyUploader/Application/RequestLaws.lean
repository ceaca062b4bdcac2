import MannyUploader.Application.HttpRequest
import MannyUploader.Application.ReportLaws
import MannyUploader.Application.StableBase

/-! When a request passes its check: the URL, the headers one by one with their total length,
the body and the limits. -/
namespace MannyUploader.Application
open Domain Foundation

theorem validateHttpRequest_isOk {request : HttpRequest} {policy : HttpTransportPolicy} :
    (validateHttpRequest request policy).isOk = true ↔
      (validateHttpUrl request.url policy).isOk = true ∧
        request.headers.length ≤ maxHttpHeaderCount ∧ validHeaders 0 request.headers = true ∧
        request.body.all (validBody request.method) = true ∧ request.timeouts.valid = true ∧
        request.responseLimits.valid = true := by
  unfold validateHttpRequest
  cases validateHttpUrl request.url policy with
  | error => simp [bind, Except.bind, Except.isOk, Except.toBool]
  | ok =>
    simp only [bind, Except.bind]
    split
    next all => simpa [Except.isOk, Except.toBool, and_assoc] using all
    next fails => simpa [Except.isOk, Except.toBool, and_assoc] using fails

theorem validHeaders_of {headers : List HttpHeader} {total : Nat}
    (each : ∀ header ∈ headers, validHeader header = true)
    (sum : total + (headers.map headerLength).sum ≤ maxHttpRequestHeaderBytes) :
    validHeaders total headers = true := by
  induction headers generalizing total with
  | nil => rfl
  | cons header rest ih =>
    rw [List.map_cons, List.sum_cons] at sum
    have fits : headerLength header ≤ maxHttpRequestHeaderBytes - total := by omega
    have later : validHeaders (total + headerLength header) rest = true := by
      apply ih
      · exact fun other member => each other (List.mem_cons_of_mem _ member)
      · omega
    simp [validHeaders, each header List.mem_cons_self, fits, later]

/-- A request with one header that is not valid is refused. -/
theorem valid_of_validHeaders {headers : List HttpHeader} {total : Nat} {header : HttpHeader}
    (valid : validHeaders total headers = true) (member : header ∈ headers) :
    validHeader header = true := by
  induction headers generalizing total with
  | nil => contradiction
  | cons first rest ih =>
    simp only [validHeaders, Bool.and_eq_true] at valid
    rcases List.mem_cons.mp member with rfl | member
    · exact valid.1.1
    · exact ih valid.2 member

section url
variable {rest tail : List UInt8} {head path : String}

theorem httpAuthority_slash : httpAuthority (rest ++ 47 :: tail) = httpAuthority rest := by
  induction rest with
  | nil => rfl
  | cons byte rest ih =>
    simp only [httpAuthority, List.cons_append, List.takeWhile_cons] at ih ⊢
    rw [ih]

theorem httpAuthority_append (inside : 47 ∈ rest) :
    httpAuthority (rest ++ tail) = httpAuthority rest := by
  obtain ⟨before, behind, rfl⟩ := List.append_of_mem inside
  rw [List.append_assoc, List.cons_append, httpAuthority_slash, httpAuthority_slash]

/-- A longer URL with the same authority. -/
theorem validateHttpUrl_append (ok : (validateHttpUrl head .httpsOnly).isOk = true)
    (shape : utf8 head = utf8 "https://" ++ rest)
    (same : httpAuthority (rest ++ utf8 path) = httpAuthority rest)
    (bytes : (utf8 path).all validUrlByte = true)
    (short : (utf8 head).length + (utf8 path).length ≤ maxHttpUrlBytes) :
    (validateHttpUrl (head ++ path) .httpsOnly).isOk = true := by
  have longer : utf8 (head ++ path) = utf8 "https://" ++ (rest ++ utf8 path) := by
    rw [utf8_append, shape, List.append_assoc]
  obtain ⟨-, plain, authority⟩ := (validateHttpUrl_https shape).mp ok
  refine (validateHttpUrl_https longer).mpr ⟨?_, ?_, ?_⟩
  · rwa [utf8_append, List.length_append]
  · rw [utf8_append, List.all_append, plain, bytes]
    rfl
  · rw [same]
    exact authority

end url

end MannyUploader.Application
