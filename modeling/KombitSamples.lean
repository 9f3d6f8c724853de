import KombitSamples.Fallible
import KombitSamples.Trace
import KombitSamples.Journal
import KombitSamples.Simulation
import KombitSamples.Authority
import KombitSamples.Removal
import KombitSamples.Xml
import KombitSamples.Replace
import KombitSamples.Delimited
import KombitSamples.Base64Url
import KombitSamples.Platform
import KombitSamples.Bytes
import KombitSamples.Saml2
import KombitSamples.TokenXml
import KombitSamples.Trust
import KombitSamples.Wsdl
import KombitSamples.Documented
import KombitSamples.Sts.Constants
import KombitSamples.Sts.CustomCertificateSecurityTokenHandler
import KombitSamples.Sts.WsTrustSecurityTokenService
import KombitSamples.Sts.CustomSaml2SecurityTokenHandler
import KombitSamples.Sts.WsTrustServiceConfiguration
import KombitSamples.Sts.Issue
import KombitSamples.Sts.OutputClaims
import KombitSamples.Sts.ExceptionThownHandler
import KombitSamples.Sts.DecoratedEndpointBehavior
import KombitSamples.Sts.WsdlPruning
import KombitSamples.Sts.PolicyPruning
import KombitSamples.Sts.TransportStripping
import KombitSamples.Sts.OnBehalfOf
import KombitSamples.Sts.Delegation
import KombitSamples.Sts.TokenLifetime
import KombitSamples.Sts.Attestation
import KombitSamples.Sts.Runs
import KombitSamples.Sts.Assembly
import KombitSamples.Consumer.StrReferenceSaml2SecurityTokenHandler
import KombitSamples.Consumer.ReplayMessageModifier
import KombitSamples.Consumer.ConnectionHelper
import KombitSamples.Consumer.Consumer
import KombitSamples.Consumer.TokenTransport
import KombitSamples.Consumer.OnBehalfOfTests
import KombitSamples.Consumer.ServiceTests
import KombitSamples.Consumer.CustomTextMessageBindingElement
import KombitSamples.Consumer.MessageModifier
import KombitSamples.Consumer.SharedModifier
import KombitSamples.Service.CustomSaml2SecurityTokenHandler
import KombitSamples.Service.ServiceServiceHostFactory
import KombitSamples.Service.StrTransformedSaml2SecurityToken
import KombitSamples.Service.Service
import KombitSamples.Federation
import KombitSamples.MessageLogs
import KombitSamples.Rest.ConfirmationJwtSecurityTokenHandler
import KombitSamples.Rest.JwtHttpAuthenticationHandler
import KombitSamples.Rest.DemoController
import KombitSamples.Rest.Host
import KombitSamples.Rest.Answer
import KombitSamples.Rest.Runs
import KombitSamples.JwtConsumer.StsOAuthConsumer
import KombitSamples.JwtConsumer.RestApi
