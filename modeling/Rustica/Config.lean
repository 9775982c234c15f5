import Rustica.Server.Types
import Rustica.Lru

/-!
# Startup (`config/mod.rs`, `configure`)

`configure` reads and parses the configuration, builds the authorizer and the signing registry,
checks that the default authority has an SSH user key and that the client authority exists with a
client certificate authority, and sets up the empty allowed-signers cache and the rate limiter.
What it reads from outside (the file, the TOML parser, the backends, the two keys it generates) is
`Startup`.
-/

namespace Rustica

/-- The `authorization` table of the configuration (local database or remote service). -/
structure AuthorizationConfiguration where
  table : String
  deriving DecidableEq, Repr

/-- `Configuration`, as `toml::from_slice` gives it. -/
structure Configuration where
  serverCert : String
  serverKey : String
  clientAuthority : ClientAuthorityConfiguration
  listenAddress : String
  authorization : AuthorizationConfiguration
  signing : SigningConfiguration
  requireRusticaProof : Bool
  requireAttestationChain : Bool
  allowedSigners : AllowedSignersConfiguration

/-- `ConfigurationError`. -/
inductive ConfigurationError
  | fileError
  | parsingError
  | sshKeyError
  | invalidListenAddress
  | authorizerError
  | signingMechanismError (e : SigningError)
  | validateOnly
  | defaultAuthorityDoesNotHaveSSHKeys
  | noSuchSigningMechanismForClientCa (chosen : String) (options : List String)
  deriving DecidableEq, Repr

/-- `RusticaSettings`: the server with its allowed-signers state, and what `main` serves it with. -/
structure RusticaSettings where
  server : RusticaServer
  allowedSigners : AllowedSignersConfiguration
  allowedSignersRateLimiter : LruCache String Duration
  allowedSignersCache : AllowedSignersCache
  clientCaCert : String
  serverCert : String
  serverKey : String
  address : SocketAddr

/-- What `configure` reads from outside: the configuration file, its TOML parse, the number of
`-v` flags, the address parser, the authorizer and signer backends, the HMAC key and challenge key
it generates, and `serialize_pem`. -/
structure Startup where
  configFile : Option Bytes
  parseConfiguration : Bytes → Option Configuration
  validate : Nat
  parseListenAddress : String → Option SocketAddr
  intoAuthorizer : AuthorizationConfiguration → Option AuthorizationMechanism
  intoSigner : SignerType → Except SigningError Signer
  hmacKey : HmacKey
  challengeKey : PrivateKey
  serializePem : CaCertificate → Except String String

/-- `configure`. -/
def configure (lib : Libraries) (env : Startup) : Except ConfigurationError RusticaSettings := do
  let some file := env.configFile | throw .fileError
  let some config := env.parseConfiguration file | throw .parsingError
  if env.validate = 1 then throw .validateOnly
  let some address := env.parseListenAddress config.listenAddress | throw .invalidListenAddress
  let some authorizer := env.intoAuthorizer config.authorization | throw .authorizerError
  let signer ← match config.signing.convertToSigningMechanism lib env.intoSigner with
    | .ok signer => pure signer
    | .error e => throw (.signingMechanismError e)
  if (signer.getSignerPublicKey signer.defaultAuthority .user).toBool = false then
    throw .defaultAuthorityDoesNotHaveSSHKeys
  let ca ← match signer.getClientCertificateAuthority config.clientAuthority.authority with
    | .error e => throw (.signingMechanismError e)
    | .ok none => throw (.noSuchSigningMechanismForClientCa config.clientAuthority.authority
        signer.getAuthorities)
    | .ok (some ca) => pure ca
  let clientCaCert ← match env.serializePem ca with
    | .error e => throw (.signingMechanismError (.accessError
        ("Could not create a PEM from the requested signing system: " ++ e)))
    | .ok pem => pure pem
  let allowedSignersRateLimiter :=
    LruCache.new config.allowedSigners.lruRateLimiterSize config.allowedSigners.lruRateLimiterSize_pos
  let allowedSignersCache := { compressedAllowedSigners := [], expiryTimestamp := 0 }
  if env.validate > 1 then throw .validateOnly
  pure
    { server :=
        { hmacKey := env.hmacKey, challengeKey := env.challengeKey, authorizer, signer,
          requireRusticaProof := config.requireRusticaProof,
          requireAttestationChain := config.requireAttestationChain,
          clientAuthority := config.clientAuthority }
      allowedSigners := config.allowedSigners, allowedSignersRateLimiter, allowedSignersCache,
      clientCaCert, serverCert := config.serverCert, serverKey := config.serverKey, address }

end Rustica
