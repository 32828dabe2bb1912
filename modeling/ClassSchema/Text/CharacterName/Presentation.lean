/-!
# Character names: presentation

The part of the table of character names from U+A500 to U+FFFF: minor scripts, and forms for
presentation.
-/

namespace ClassSchema.Text.CharacterName

/-- The names of minor scripts, and forms for presentation. -/
def presentation : List String :=
  ["@A500aVAI SYLLABLE EEcEENcHEEcWEEcWEENcPEEcBHEEcBEEcMBEEcKPEEcMGBEEcGBEEcFEEcVEEcTEEcTHEEcDHEE",
   "cDHHEEcLEEcREEcDEEcNDEEcSEEcSHEEcZEEcZHEEcCEEcJEEcNJEEcYEEcKEEcNGGEEcGEEcMEEcNEEcNYEEcIcINcHI",
   "cHINcWIcWINcPIcBHIcBIcMBIcKPIcMGBIcGBIcFIcVIcTIcTHIcDHIcDHHIcLIcRIcDIcNDIcSIcSHIcZIcZHIcCIcJI",
   "cNJIcYIcKIcNGGIcGIcMIcNIcNYIcAcANcNGANcHAcHANcWAcWANcPAcBHAcBAcMBAcKPAcKPANcMGBAcGBAcFAcVAcTA",
   "cTHAcDHAcDHHAcLAcRAcDAcNDAcSAcSHAcZAcZHAcCAcJAcNJAcYAcKAcKANcNGGAcGAcMAcNAcNYAcOOcOONcHOOcWOO",
   "cWOONcPOOcBHOOcBOOcMBOOcKPOOcMGBOOcGBOOcFOOcVOOcTOOcTHOOcDHOOcDHHOOcLOOcROOcDOOcNDOOcSOOcSHOO",
   "cZOOcZHOOcCOOcJOOcNJOOcYOOcKOOcNGGOOcGOOcMOOcNOOcNYOOcUcUNcHUcHUNcWUcWUNcPUcBHUcBUcMBUcKPU",
   "cMGBUcGBUcFUcVUcTUcTHUcDHUcDHHUcLUcRUcDUcNDUcSUcSHUcZUcZHUcCUcJUcNJUcYUcKUcNGGUcGUcMUcNUcNYUcO",
   "cONcNGONcHOcHONcWOcWONcPOcBHOcBOcMBOcKPOcMGBOcGBOcGBONcFOcVOcTOcTHOcDHOcDHHOcLOcROcDOcNDOcSO",
   "cSHOcZOcZHOcCOcJOcNJOcYOcKOcNGGOcGOcMOcNOcNYOcEcENcNGENcHEcHENcWEcWENcPEcBHEcBEcMBEcKPEcKPEN",
   "cMGBEcGBEcGBENcFEcVEcTEcTHEcDHEcDHHEcLEcREcDEcNDEcSEcSHEcZEcZHEcCEcJEcNJEcYEcKEcNGGEcNGGENcGE",
   "cGENcMEcNEcNYEcNGcLENGTHENERbCOMMAbFULL STOPbQUESTION MARKbSYLLABLE NDOLE FAdKAdSOO",
   "bSYMBOL FEENGcKEENGcTINGcNIIcBANGcFAAcTAAcDANGcDOONGcKUNGcTONGcDO-OcJONGbDIGIT ZEROcONEcTWO",
   "cTHREEcFOURcFIVEcSIXcSEVENcEIGHTcNINEbSYLLABLE NDOLE MAdDO@A640aCYRILLIC CAPITAL LETTER ZEMLYA",
   "bSMALL~~bCAPITAL LETTER DZELObSMALL~~bCAPITAL LETTER REVERSED DZEbSMALL~~~bCAPITAL LETTER IOTA",
   "bSMALL~~bCAPITAL LETTER DJERVbSMALL~~bCAPITAL LETTER MONOGRAPH UKbSMALL~~~",
   "bCAPITAL LETTER BROAD OMEGAbSMALL~~~bCAPITAL LETTER NEUTRAL YERbSMALL~~~",
   "bCAPITAL LETTER YERU WITH BACK~bSMALL~~~~~bCAPITAL LETTER IOTIFIED YATbSMALL~~~",
   "bCAPITAL LETTER REVERSED YUbSMALL~~~bCAPITAL LETTER IOTIFIED AbSMALL~~~",
   "bCAPITAL LETTER CLOSED LITTLE YUSbSMALL~~~~bCAPITAL LETTER BLENDED~bSMALL~~~",
   "bCAPITAL LETTER IOTIFIED CLOSED LITTLE~bSMALL~~~~~bCAPITAL LETTER YNbSMALL~~",
   "bCAPITAL LETTER REVERSED TSEbSMALL~~~bCAPITAL LETTER SOFT DEbSMALL~~~bCAPITAL LETTER SOFT EL",
   "bSMALL~~~bCAPITAL LETTER SOFT EMbSMALL~~~bCAPITAL LETTER MONOCULAR ObSMALL~~~",
   "bCAPITAL LETTER BINOCULAR~bSMALL~~~bCAPITAL LETTER DOUBLE MONOCULAR~bSMALL~~~~",
   "bLETTER MULTIOCULAR~aCOMBINING CYRILLIC VZMETcTEN MILLIONS SIGNcHUNDRED~~cTHOUSAND~~",
   "aSLAVONIC ASTERISKaCOMBINING CYRILLIC LETTER UKRAINIAN IEdIdYIdUdHARD SIGNdYERUdSOFT SIGN",
   "dOMEGAcKAVYKAcPAYEROKaCYRILLIC KAVYKAbPAYEROKbCAPITAL LETTER DWEbSMALL~~bCAPITAL LETTER DZWE",
   "bSMALL~~bCAPITAL LETTER ZHWEbSMALL~~bCAPITAL LETTER CCHEbSMALL~~bCAPITAL LETTER DZZEbSMALL~~",
   "bCAPITAL LETTER TE WITH MIDDLE HOOKbSMALL~~~~~bCAPITAL LETTER TWEbSMALL~~bCAPITAL LETTER TSWE",
   "bSMALL~~bCAPITAL LETTER TSSEbSMALL~~bCAPITAL LETTER TCHEbSMALL~~bCAPITAL LETTER HWEbSMALL~~",
   "bCAPITAL LETTER SHWEbSMALL~~bCAPITAL LETTER DOUBLE ObSMALL~~~bCAPITAL LETTER CROSSED~bSMALL~~~",
   "aMODIFIER LETTER CYRILLIC HARD SIGNdSOFT~aCOMBINING CYRILLIC LETTER EFdIOTIFIED E",
   "aBAMUM LETTER AcKAcUcKUcEEcREEcTAEcOcNYIcIcLAcPAcRIIcRIEEcLEEEEcMEEEEcTAAcNDAAcNJAEMcMcSUUcMU",
   "cSHIIcSIcSHEUXcSEUXcKYEEcKETcNUAEcNUcNJUAEcYOQcSHUcYUQcYAcNSHAcKEUXcPEUXcNJEEcNTEEcPUEcWUEcPEE",
   "cFEEcRUcLUcMIcNIcREUXcRAEcKENcNGKWAENcNGGAcNGAcSHOcPUAEcFUcFOMcWAcNAcLIcPIcLOQcKOcMBENcRENcMEN",
   "cMAcTIcKIcMOcMBAAcTETcKPAcTENcNTUUcSAMBAcFAAMAEcKOVUUcKOGHOMbCOMBINING MARK KOQNDONdTUKWENTIS",
   "bNJAEMLIbFULL STOPbCOLONbCOMMAbSEMICOLONbQUESTION MARK@A700",
   "aMODIFIER LETTER CHINESE TONE YIN PINGeYANG~eYIN SHANGeYANG~eYIN QUeYANG~eYIN RUeYANG~",
   "cEXTRA-HIGH DOTTED TONE BARcHIGH~~~cMID~~~cLOW~~~cEXTRA-LOW~~~cEXTRA-HIGH DOTTED LEFT-STEM~~",
   "cHIGH~~~~cMID~~~~cLOW~~~~cEXTRA-LOW~~~~cEXTRA-HIGH~~~cHIGH~~~cMID~~~cLOW~~~cEXTRA-LOW~~~",
   "cDOT VERTICAL~dSLASHdHORIZONTAL BARcLOWER RIGHT CORNER ANGLEcRAISED UP ARROWdDOWN~",
   "dEXCLAMATION MARKdINVERTED~~cLOW~~~cSTRESS AND HIGH TONEeLOW~",
   "aLATIN CAPITAL LETTER EGYPTOLOGICAL ALEFbSMALL~~~bCAPITAL LETTER EGYPTOLOGICAL AINbSMALL~~~",
   "bCAPITAL LETTER HENGbSMALL~~bCAPITAL LETTER TZbSMALL~~bCAPITAL LETTER TRESILLObSMALL~~",
   "bCAPITAL LETTER CUATRILLObSMALL~~bCAPITAL LETTER CUATRILLO WITH COMMAbSMALL~~~~",
   "bLETTER SMALL CAPITAL FeSbCAPITAL LETTER AAbSMALL~~bCAPITAL LETTER AObSMALL~~",
   "bCAPITAL LETTER AUbSMALL~~bCAPITAL LETTER AVbSMALL~~bCAPITAL LETTER AV WITH HORIZONTAL BAR",
   "bSMALL~~~~~bCAPITAL LETTER AYbSMALL~~bCAPITAL LETTER REVERSED C WITH DOTbSMALL~~~~~",
   "bCAPITAL LETTER K WITH STROKEbSMALL~~~~bCAPITAL LETTER K WITH DIAGONAL~bSMALL~~~~~",
   "bCAPITAL LETTER K WITH STROKE AND~~bSMALL~~~~~~~bCAPITAL LETTER BROKEN LbSMALL~~~",
   "bCAPITAL LETTER L WITH HIGH STROKEbSMALL~~~~~bCAPITAL LETTER O WITH LONG STROKE OVERLAY",
   "bSMALL~~~~~~bCAPITAL LETTER O WITH LOOPbSMALL~~~~bCAPITAL LETTER OObSMALL~~",
   "bCAPITAL LETTER P WITH STROKE THROUGH DESCENDERbSMALL~~~~~~bCAPITAL LETTER P WITH FLOURISH",
   "bSMALL~~~~bCAPITAL LETTER P WITH SQUIRREL TAILbSMALL~~~~~",
   "bCAPITAL LETTER Q WITH STROKE THROUGH DESCENDERbSMALL~~~~~~",
   "bCAPITAL LETTER Q WITH DIAGONAL STROKEbSMALL~~~~~bCAPITAL LETTER R ROTUNDAbSMALL~~~",
   "bCAPITAL LETTER RUM~bSMALL~~~bCAPITAL LETTER V WITH DIAGONAL STROKEbSMALL~~~~~",
   "bCAPITAL LETTER VYbSMALL~~bCAPITAL LETTER VISIGOTHIC ZbSMALL~~~",
   "bCAPITAL LETTER THORN WITH STROKEbSMALL~~~~bCAPITAL LETTER THORN WITH STROKE THROUGH DESCENDER",
   "bSMALL~~~~~~bCAPITAL LETTER VENDbSMALL~~bCAPITAL LETTER ETbSMALL~~bCAPITAL LETTER ISbSMALL~~",
   "bCAPITAL LETTER CONbSMALL~~aMODIFIER LETTER USaLATIN SMALL LETTER DUMdLUMdMUMdNUMdRUM",
   "bLETTER SMALL CAPITAL~bSMALL LETTER TUMdUMbCAPITAL LETTER INSULAR DbSMALL~~~",
   "bCAPITAL LETTER INSULAR FbSMALL~~~bCAPITAL LETTER INSULAR GdTURNED~~bSMALL~~~~",
   "bCAPITAL LETTER TURNED LbSMALL~~~bCAPITAL LETTER INSULAR RbSMALL~~~bCAPITAL LETTER INSULAR S",
   "bSMALL~~~bCAPITAL LETTER INSULAR TbSMALL~~~aMODIFIER LETTER LOW CIRCUMFLEX ACCENTcCOLON",
   "cSHORT EQUALS SIGNaLATIN CAPITAL LETTER SALTILLObSMALL~~bCAPITAL LETTER TURNED H",
   "bSMALL LETTER L WITH RETROFLEX HOOK AND BELTbLETTER SINOLOGICAL DOT",
   "bCAPITAL LETTER N WITH DESCENDERbSMALL~~~~bCAPITAL LETTER C WITH BARbSMALL~~~~fPALATAL HOOK",
   "dH~~~bCAPITAL LETTER B WITH FLOURISHbSMALL~~~~bCAPITAL LETTER F WITH STROKEbSMALL~~~~",
   "bCAPITAL LETTER VOLAPUK AEbSMALL~~~bCAPITAL LETTER VOLAPUK OEbSMALL~~~",
   "bCAPITAL LETTER VOLAPUK UEbSMALL~~~bCAPITAL LETTER G WITH OBLIQUE STROKEbSMALL~~~~~",
   "bCAPITAL LETTER K~~~bSMALL~~~~~bCAPITAL LETTER N~~~bSMALL~~~~~bCAPITAL LETTER R~~~bSMALL~~~~~",
   "bCAPITAL LETTER S~~~bSMALL~~~~~bCAPITAL LETTER H WITH HOOKdREVERSED OPEN EdSCRIPT G",
   "dL WITH BELTdSMALL CAPITAL IbLETTER SMALL CAPITAL QbCAPITAL LETTER TURNED KeT",
   "dJ WITH CROSSED-TAILdCHIdBETAbSMALL~~bCAPITAL LETTER OMEGAbSMALL~~",
   "bCAPITAL LETTER U WITH STROKEbSMALL~~~~bCAPITAL LETTER GLOTTAL AbSMALL~~~",
   "bCAPITAL LETTER GLOTTAL IbSMALL~~~bCAPITAL LETTER GLOTTAL UbSMALL~~~",
   "bCAPITAL LETTER OLD POLISH ObSMALL~~~~bCAPITAL LETTER ANGLICANA WbSMALL~~~",
   "bCAPITAL LETTER C WITH PALATAL HOOKdS WITH~dZ WITH PALATAL~dD WITH SHORT STROKE OVERLAY",
   "bSMALL~~~~~~bCAPITAL LETTER S~~~~bSMALL~~~~~~@A7D0bCAPITAL LETTER CLOSED INSULAR GbSMALL~~~~",
   "@A7D3dDOUBLE THORN@A7D5eWYNNbCAPITAL LETTER MIDDLE SCOTS SbSMALL~~~~bCAPITAL LETTER SIGMOID~",
   "bSMALL~~~@A7F2aMODIFIER LETTER CAPITAL CdFdQaLATIN CAPITAL LETTER REVERSED HALF HbSMALL~~~~",
   "bEPIGRAPHIC LETTER SIDEWAYS IaMODIFIER LETTER CAPITAL H WITH STROKEcSMALL LIGATURE OE",
   "aLATIN LETTER SMALL CAPITAL TURNED MbEPIGRAPHIC LETTER REVERSED FePdINVERTED MdI LONGA",
   "dARCHAIC MaSYLOTI NAGRI LETTER AdIcSIGN DVISVARAcLETTER UdEdOcSIGN HASANTAcLETTER KOdKHOdGO",
   "dGHOcSIGN ANUSVARAcLETTER COdCHOdJOdJHOdTTOdTTHOdDDOdDDHOdTOdTHOdDOdDHOdNOdPOdPHOdBOdBHOdMOdRO",
   "dLOdRROdSOdHOcVOWEL SIGN AeIeUeEeOOcPOETRY MARK-1+3cSIGN ALTERNATE HASANTA@A830",
   "aNORTH INDIC FRACTION ONE QUARTEReHALFdTHREE QUARTERSdONE SIXTEENTHeEIGHTHdTHREE SIXTEENTHS",
   "cQUARTER MARKcPLACEHOLDER~cRUPEE~cQUANTITY~@A840aPHAGS-PA LETTER KAcKHAcGAcNGAcCAcCHAcJAcNYA",
   "cTAcTHAcDAcNAcPAcPHAcBAcMAcTSAcTSHAcDZAcWAcZHAcZAcSMALL AcYAcRAcLAcSHAcSAcHAcAcIcUcEcOcQAcXA",
   "cFAcGGAcEEbSUBJOINED LETTER WAdYAbLETTER TTAcTTHAcDDAcNNAcALTERNATE YAcVOICELESS SHAcVOICED HA",
   "cASPIRATED FAbSUBJOINED LETTER RAbSUPERFIXED~~bLETTER CANDRABINDUbSINGLE HEAD MARKbDOUBLE~~",
   "bMARK SHADcDOUBLE~@A880aSAURASHTRA SIGN ANUSVARAcVISARGAbLETTER AcAAcIcIIcUcUUcVOCALIC RdRRdL",
   "dLLcEcEEcAIcOcOOcAUcKAcKHAcGAcGHAcNGAcCAcCHAcJAcJHAcNYAcTTAcTTHAcDDAcDDHAcNNAcTAcTHAcDAcDHAcNA",
   "cPAcPHAcBAcBHAcMAcYAcRAcLAcVAcSHAcSSAcSAcHAcLLAbCONSONANT SIGN HAARUbVOWEL SIGN AAdIdIIdUdUU",
   "dVOCALIC ReRReLeLLdEdEEdAIdOdOOdAUbSIGN VIRAMAcCANDRABINDU@A8CEbDANDAbDOUBLE~bDIGIT ZEROcONE",
   "cTWOcTHREEcFOURcFIVEcSIXcSEVENcEIGHTcNINE@A8E0aCOMBINING DEVANAGARI DIGIT ZEROdONEdTWOdTHREE",
   "dFOURdFIVEdSIXdSEVENdEIGHTdNINEcLETTER AdUdKAdNAdPAdRAdVIcSIGN AVAGRAHA",
   "aDEVANAGARI SIGN SPACING CANDRABINDUcCANDRABINDU VIRAMAcDOUBLE~~cCANDRABINDU TWOdTHREE",
   "dAVAGRAHAcPUSHPIKAbGAP FILLERbCARETbHEADSTROKEbSIGN SIDDHAMbJAIN OMbLETTER AYbVOWEL SIGN~",
   "aKAYAH LI DIGIT ZEROdONEdTWOdTHREEdFOURdFIVEdSIXdSEVENdEIGHTdNINEcLETTER KAdKHAdGAdNGAdSAdSHA",
   "dZAdNYAdTAdHTAdNAdPAdPHAdMAdDAdBAdRAdYAdLAdWAdTHAdHAdVAdCAdAdOEdIdOOcVOWEL UEdEdUdEEdO",
   "cTONE PLOPHUdCALYAePLOPHUcSIGN CWIdSHYAaREJANG LETTER KAcGAcNGAcTAcDAcNAcPAcBAcMAcCAcJAcNYAcSA",
   "cRAcLAcYAcWAcHAcMBAcNGGAcNDAcNYJAcAbVOWEL SIGN IdUdEdAIdOdAUdEUdEAbCONSONANT SIGN NGdNdRdH",
   "bVIRAMA@A95FbSECTION MARKaHANGUL CHOSEONG TIKEUT-MIEUMcTIKEUT-PIEUPcTIKEUT-SIOScTIKEUT-CIEUC",
   "cRIEUL-KIYEOKcRIEUL-SSANGKIYEOKcRIEUL-TIKEUTcRIEUL-SSANGTIKEUTcRIEUL-MIEUMcRIEUL-PIEUP",
   "cRIEUL-SSANGPIEUPcRIEUL-KAPYEOUNPIEUPcRIEUL-SIOScRIEUL-CIEUCcRIEUL-KHIEUKHcMIEUM-KIYEOK",
   "cMIEUM-TIKEUTcMIEUM-SIOScPIEUP-SIOS-THIEUTHcPIEUP-KHIEUKHcPIEUP-HIEUHcSSANGSIOS-PIEUP",
   "cIEUNG-RIEULcIEUNG-HIEUHcSSANGCIEUC-HIEUHcSSANGTHIEUTHcPHIEUPH-HIEUHcHIEUH-SIOS",
   "cSSANGYEORINHIEUH@A980aJAVANESE SIGN PANYANGGAcCECAKcLAYARcWIGNYANbLETTER AcI KAWIdcIIcU",
   "cPA CEREKcNGA LELETeRASWADIcEcAIcOcKAdSASAKdMURDAcGAdMURDAcNGAcCAdMURDAcJAcNYA MURDA",
   "cJA MAHAPRANAcNYAcTTAdMAHAPRANAcDDAdMAHAPRANAcNA MURDAcTAdMURDAcDAdMAHAPRANAcNAcPAdMURDAcBA",
   "dMURDAcMAcYAcRAdAGUNGcLAcWAcSA MURDAdMAHAPRANAdcHAbSIGN CECAK TELUbVOWEL SIGN TARUNGdTOLONG",
   "dWULUeMELIKdSUKUeMENDUTdTALINGdDIRGA MUREdPEPETbCONSONANT SIGN KERETdPENGKALdCAKRAbPANGKON",
   "bLEFT RERENGGANbRIGHT~bPADA ANDAPcMADYAcLUHURcWINDUcPANGKATcLINGSAcLUNGSIcADEGdADEGcPISELEH",
   "bTURNED~~@A9CFbPANGRANGKEPbDIGIT ZEROcONEcTWOcTHREEcFOURcFIVEcSIXcSEVENcEIGHTcNINE@A9DE",
   "bPADA TIRTA TUMETEScISEN-ISENaMYANMAR LETTER SHAN GHAdCHAdJHAdNNAdBHAbSIGN SHAN SAW",
   "bMODIFIER LETTER SHAN REDUPLICATIONbLETTER TAI LAING NYAeFAeGAeGHAeJAeJHAeDDAeDDHAeNNA",
   "bTAI LAING DIGIT ZEROeONEeTWOeTHREEeFOUReFIVEeSIXeSEVENeEIGHTeNINEbLETTER TAI LAING LLAeDAeDHA",
   "eBAeBHA@AA00aCHAM LETTER AcIcUcEcAIcOcKAcKHAcGAcGHAcNGUEcNGAcCHAcCHHAcJAcJHAcNHUEcNHAcNHJAcTA",
   "cTHAcDAcDHAcNUEcNAcDDAcPAcPPAcPHAcBAcBHAcMUEcMAcBBAcYAcRAcLAcVAcSSAcSAcHAbVOWEL SIGN AAdIdII",
   "dEIdUdOEdOdAIdAUdUEbCONSONANT SIGN YAdRAdLAdWA@AA40bLETTER FINAL KdGdNGbCONSONANT SIGN~~",
   "bLETTER FINAL CHdTdNdPdYdRdLdSSbCONSONANT SIGN FINAL MeH@AA50bDIGIT ZEROcONEcTWOcTHREEcFOUR",
   "cFIVEcSIXcSEVENcEIGHTcNINE@AA5CbPUNCTUATION SPIRALcDANDAcDOUBLE~cTRIPLE~",
   "aMYANMAR LETTER KHAMTI GAdCAdCHAdJAdJHAdNYAdTTAdTTHAdDDAdDDHAdDHAdNAdSAdHAdHHAdFA",
   "bMODIFIER LETTER KHAMTI REDUPLICATIONbLETTER KHAMTI XAdZAdRAbLOGOGRAM KHAMTI OAYdQNdHM",
   "bSYMBOL AITON EXCLAMATIONdONEdTWObLETTER AITON RAbSIGN PAO KAREN TONEcTAI LAING TONE-2eTONE-5",
   "bLETTER SHWE PALAUNG CHAeSHAaTAI VIET LETTER LOW KOdHIGH~dLOW KHOdHIGH~dLOW KHHOdHIGH~dLOW GO",
   "dHIGH~dLOW NGOdHIGH~dLOW COdHIGH~dLOW CHOdHIGH~dLOW SOdHIGH~dLOW NYOdHIGH~dLOW DOdHIGH~dLOW TO",
   "dHIGH~dLOW THOdHIGH~dLOW NOdHIGH~dLOW BOdHIGH~dLOW POdHIGH~dLOW PHOdHIGH~dLOW FOdHIGH~dLOW MO",
   "dHIGH~dLOW YOdHIGH~dLOW ROdHIGH~dLOW LOdHIGH~dLOW VOdHIGH~dLOW HOdHIGH~dLOW OdHIGH~cMAI KANG",
   "cVOWEL AAdIdUEdUdEdOcMAI KHITcVOWEL IAdUEAdUAdAUEdAYdANdAMcTONE MAI EKeNUENGeTHOeSONG@AADB",
   "cSYMBOL KONdNUENGdSAMdHO HOIdKOI KOIaMEETEI MAYEK LETTER EdOdCHAdNYAdTTAdTTHAdDDAdDDHAdNNAdSHA",
   "dSSAcVOWEL SIGN IIeUUeAAIeAUeAAUcCHEIKHANcAHANG KHUDAMcANJIcSYLLABLE REPETITION MARKcWORD~~",
   "cVOWEL SIGN VISARGAcVIRAMA@AB01aETHIOPIC SYLLABLE TTHUcTTHIcTTHAAcTTHEEcTTHEcTTHO@AB09cDDHU",
   "cDDHIcDDHAAcDDHEEcDDHEcDDHO@AB11cDZUcDZIcDZAAcDZEEcDZEcDZO@AB20cCCHHAcCCHHUcCCHHIcCCHHAA",
   "cCCHHEEcCCHHEcCCHHO@AB28cBBAcBBUcBBIcBBAAcBBEEcBBEcBBO@AB30aLATIN SMALL LETTER BARRED ALPHA",
   "dA REVERSED-SCHWAdBLACKLETTER EdBARRED~dE WITH FLOURISHdLENIS FdSCRIPT G WITH CROSSED-TAIL",
   "dL WITH INVERTED LAZY SfDOUBLE MIDDLE TILDEfMIDDLE RINGdM WITH CROSSED-TAILdN~~dENG~~",
   "dBLACKLETTER OfWITH STROKEdOPEN~~~dINVERTED OEdTURNED OE WITH STROKEgHORIZONTAL~eO OPEN-O",
   "gWITH STROKEdSTIRRUP RbLETTER SMALL CAPITAL R WITH RIGHT LEGbSMALL LETTER R WITHOUT HANDLE",
   "dDOUBLE RdR WITH CROSSED-TAILdDOUBLE~~~dSCRIPT RfWITH RINGdBASELINE ESHdU WITH SHORT RIGHT LEG",
   "eBAR~~~~dUIdTURNED~dU WITH LEFT HOOKdCHIeWITH LOW RIGHT RINGgLEFT SERIFdX WITH LOW RIGHT RING",
   "fLONG LEFT LEGiAND LOW RIGHT RINGiWITH SERIFdY WITH SHORT RIGHT LEG",
   "aMODIFIER BREVE WITH INVERTED BREVEbLETTER SMALL HENGdL WITH INVERTED LAZY SfMIDDLE TILDE",
   "dU WITH LEFT HOOKaLATIN SMALL LETTER SAKHA YATdIOTIFIED EdOPEN OEdUOdINVERTED ALPHA",
   "aGREEK LETTER SMALL CAPITAL OMEGAaLATIN SMALL LETTER DZ DIGRAPH WITH RETROFLEX HOOKdTS~~~~",
   "dTURNED R WITH MIDDLE TILDEaMODIFIER LETTER SMALL TURNED WcLEFT TACKcRIGHT~@AB70",
   "aCHEROKEE SMALL LETTER AdEdIdOdUdVdGAdKAdGEdGIdGOdGUdGVdHAdHEdHIdHOdHUdHVdLAdLEdLIdLOdLUdLVdMA",
   "dMEdMIdMOdMUdNAdHNAdNAHdNEdNIdNOdNUdNVdQUAdQUEdQUIdQUOdQUUdQUVdSAdSdSEdSIdSOdSUdSVdDAdTAdDEdTE",
   "dDIdTIdDOdDUdDVdDLAdTLAdTLEdTLIdTLOdTLUdTLVdTSAdTSEdTSIdTSOdTSUdTSVdWAdWEdWIdWOdWUdWVdYA",
   "aMEETEI MAYEK LETTER KOKdSAMdLAIdMITdPAdNAdCHILdTILdKHOUdNGOUdTHOUdWAIdYANGdHUKdUNdIdPHAM",
   "dATIYAdGOKdJHAMdRAIdBAdJILdDILdGHOUdDHOUdBHAMdKOK LONSUMdLAI~dMIT~dPA~dNA~dTIL~dNGOU~dI~",
   "cVOWEL SIGN ONAPeINAPeANAPeYENAPeSOUNAPeUNAPeCHEINAPeNUNGcCHEIKHEIcLUM IYEKcAPUN~@ABF0",
   "cDIGIT ZEROdONEdTWOdTHREEdFOURdFIVEdSIXdSEVENdEIGHTdNINE@D7B0aHANGUL JUNGSEONG O-YEOcO-O-I",
   "cYO-AcYO-AEcYO-EOcU-YEOcU-I-IcYU-AEcYU-OcEU-AcEU-EOcEU-EcEU-OcI-YA-OcI-YAEcI-YEOcI-YEcI-O-I",
   "cI-YOcI-YUcI-IcARAEA-AcARAEA-E@D7CBbJONGSEONG NIEUN-RIEULcNIEUN-CHIEUCHcSSANGTIKEUT",
   "cSSANGTIKEUT-PIEUPcTIKEUT-PIEUPcTIKEUT-SIOScTIKEUT-SIOS-KIYEOKcTIKEUT-CIEUCcTIKEUT-CHIEUCH",
   "cTIKEUT-THIEUTHcRIEUL-SSANGKIYEOKcRIEUL-KIYEOK-HIEUHcSSANGRIEUL-KHIEUKHcRIEUL-MIEUM-HIEUH",
   "cRIEUL-PIEUP-TIKEUTcRIEUL-PIEUP-PHIEUPHcRIEUL-YESIEUNGcRIEUL-YEORINHIEUH-HIEUHcKAPYEOUNRIEUL",
   "cMIEUM-NIEUNcMIEUM-SSANGNIEUNcSSANGMIEUMcMIEUM-PIEUP-SIOScMIEUM-CIEUCcPIEUP-TIKEUT",
   "cPIEUP-RIEUL-PHIEUPHcPIEUP-MIEUMcSSANGPIEUPcPIEUP-SIOS-TIKEUTcPIEUP-CIEUCcPIEUP-CHIEUCH",
   "cSIOS-MIEUMcSIOS-KAPYEOUNPIEUPcSSANGSIOS-KIYEOKcSSANGSIOS-TIKEUTcSIOS-PANSIOScSIOS-CIEUC",
   "cSIOS-CHIEUCHcSIOS-THIEUTHcSIOS-HIEUHcPANSIOS-PIEUPcPANSIOS-KAPYEOUNPIEUPcYESIEUNG-MIEUM",
   "cYESIEUNG-HIEUHcCIEUC-PIEUPcCIEUC-SSANGPIEUPcSSANGCIEUCcPHIEUPH-SIOScPHIEUPH-THIEUTH@FB00",
   "aLATIN SMALL LIGATURE FFdFIdFLdFFIdFFLdLONG S TdST@FB13aARMENIAN SMALL LIGATURE MEN NOWeECH",
   "eINIdVEW NOWdMEN XEH@FB1DaHEBREW LETTER YOD WITH HIRIQbPOINT JUDEO-SPANISH VARIKA",
   "bLIGATURE YIDDISH YOD YOD PATAHbLETTER ALTERNATIVE AYINcWIDE ALEFdDALETdHEdKAFdLAMEDdFINAL MEM",
   "dRESHdTAVcALTERNATIVE PLUS SIGNcSHIN WITH SHIN DOTeSIN~eDAGESH AND SHIN~gSIN~cALEF WITH PATAH",
   "eQAMATSeMAPIQcBET WITH DAGESHcGIMEL~~cDALET~~cHE WITH MAPIQcVAV WITH DAGESHcZAYIN~~@FB38cTET~~",
   "cYOD~~cFINAL KAF~~c~~~cLAMED~~@FB3EcMEM~~@FB40cNUN~~cSAMEKH~~@FB43cFINAL PE~~c~~~@FB46cTSADI~~",
   "cQOF~~cRESH~~cSHIN~~cTAV~~cVAV WITH HOLAMcBET WITH RAFEcKAF~~cPE~~bLIGATURE ALEF LAMED",
   "aARABIC LETTER ALEF WASLA ISOLATED FORMeFINAL~cBEEH ISOLATED~dFINAL~dINITIAL~dMEDIAL~",
   "cPEH ISOLATED~dFINAL~dINITIAL~dMEDIAL~cBEHEH ISOLATED~dFINAL~dINITIAL~dMEDIAL~",
   "cTTEHEH ISOLATED~dFINAL~dINITIAL~dMEDIAL~cTEHEH ISOLATED~dFINAL~dINITIAL~dMEDIAL~",
   "cTTEH ISOLATED~dFINAL~dINITIAL~dMEDIAL~cVEH ISOLATED~dFINAL~dINITIAL~dMEDIAL~cPEHEH ISOLATED~",
   "dFINAL~dINITIAL~dMEDIAL~cDYEH ISOLATED~dFINAL~dINITIAL~dMEDIAL~cNYEH ISOLATED~dFINAL~dINITIAL~",
   "dMEDIAL~cTCHEH ISOLATED~dFINAL~dINITIAL~dMEDIAL~cTCHEHEH ISOLATED~dFINAL~dINITIAL~dMEDIAL~",
   "cDDAHAL ISOLATED~dFINAL~cDAHAL ISOLATED~dFINAL~cDUL ISOLATED~dFINAL~cDDAL ISOLATED~dFINAL~",
   "cJEH ISOLATED~dFINAL~cRREH ISOLATED~dFINAL~cKEHEH ISOLATED~dFINAL~dINITIAL~dMEDIAL~",
   "cGAF ISOLATED~dFINAL~dINITIAL~dMEDIAL~cGUEH ISOLATED~dFINAL~dINITIAL~dMEDIAL~cNGOEH ISOLATED~",
   "dFINAL~dINITIAL~dMEDIAL~cNOON GHUNNA ISOLATED~eFINAL~cRNOON ISOLATED~dFINAL~dINITIAL~dMEDIAL~",
   "cHEH WITH YEH ABOVE ISOLATED~gFINAL~dGOAL ISOLATED~eFINAL~eINITIAL~eMEDIAL~",
   "dDOACHASHMEE ISOLATED~eFINAL~eINITIAL~eMEDIAL~cYEH BARREE ISOLATED~eFINAL~",
   "eWITH HAMZA ABOVE ISOLATED~hFINAL~bSYMBOL DOT ABOVEdBELOWcTWO DOTS ABOVEeBELOW",
   "cTHREE DOTS ABOVEeBELOWePOINTING DOWNWARDS ABOVEgBELOWcFOUR DOTS ABOVEeBELOW",
   "cDOUBLE VERTICAL BAR~cTWO DOTS VERTICALLY ABOVEfBELOWcRINGcSMALL TAH ABOVEeBELOWcWASLA ABOVE",
   "@FBD3bLETTER NG ISOLATED FORMdFINAL~dINITIAL~dMEDIAL~cU ISOLATED~dFINAL~cOE ISOLATED~dFINAL~",
   "cYU ISOLATED~dFINAL~cU WITH HAMZA ABOVE ISOLATED~cVE~~dFINAL~cKIRGHIZ OE ISOLATED~eFINAL~",
   "dYU ISOLATED~eFINAL~cE ISOLATED~dFINAL~dINITIAL~dMEDIAL~",
   "cUIGHUR KAZAKH KIRGHIZ ALEF MAKSURA INITIAL~hMEDIAL~",
   "bLIGATURE YEH WITH HAMZA ABOVE WITH ALEF ISOLATED~iFINAL~hAE ISOLATED~iFINAL~hWAW ISOLATED~",
   "iFINAL~hU ISOLATED~iFINAL~hOE ISOLATED~iFINAL~hYU ISOLATED~iFINAL~hE ISOLATED~iFINAL~iINITIAL~",
   "cUIGHUR KIRGHIZ YEH WITH HAMZA ABOVE WITH ALEF MAKSURA ISOLATED~lFINAL~lINITIAL~",
   "bLETTER FARSI YEH ISOLATED~eFINAL~eINITIAL~eMEDIAL~",
   "bLIGATURE YEH WITH HAMZA ABOVE WITH JEEM ISOLATED~hHAH~~hMEEM~~hALEF MAKSURA~~hYEH~~",
   "cBEH WITH JEEM~~eHAH~~eKHAH~~eMEEM~~eALEF MAKSURA~~eYEH~~cTEH WITH JEEM~~eHAH~~eKHAH~~eMEEM~~",
   "eALEF MAKSURA~~eYEH~~cTHEH WITH JEEM~~eMEEM~~eALEF MAKSURA~~eYEH~~cJEEM WITH HAH~~eMEEM~~",
   "cHAH WITH JEEM~~eMEEM~~cKHAH WITH JEEM~~eHAH~~eMEEM~~cSEEN WITH JEEM~~eHAH~~eKHAH~~eMEEM~~",
   "cSAD WITH HAH~~eMEEM~~cDAD WITH JEEM~~eHAH~~eKHAH~~eMEEM~~cTAH WITH HAH~~eMEEM~~cZAH~~~~",
   "cAIN WITH JEEM~~eMEEM~~cGHAIN WITH JEEM~~eMEEM~~cFEH WITH JEEM~~eHAH~~eKHAH~~eMEEM~~",
   "eALEF MAKSURA~~eYEH~~cQAF WITH HAH~~eMEEM~~eALEF MAKSURA~~eYEH~~cKAF WITH ALEF~~eJEEM~~eHAH~~",
   "eKHAH~~eLAM~~eMEEM~~eALEF MAKSURA~~eYEH~~cLAM WITH JEEM~~eHAH~~eKHAH~~eMEEM~~eALEF MAKSURA~~",
   "eYEH~~cMEEM WITH JEEM~~eHAH~~eKHAH~~eMEEM~~eALEF MAKSURA~~eYEH~~cNOON WITH JEEM~~eHAH~~eKHAH~~",
   "eMEEM~~eALEF MAKSURA~~eYEH~~cHEH WITH JEEM~~eMEEM~~eALEF MAKSURA~~eYEH~~cYEH WITH JEEM~~eHAH~~",
   "eKHAH~~eMEEM~~eALEF MAKSURA~~eYEH~~cTHAL WITH SUPERSCRIPT ALEF~~cREH~~~~~cALEF MAKSURA~~~~~",
   "cSHADDA WITH DAMMATAN~~eKASRATAN~~eFATHA~~eDAMMA~~eKASRA~~eSUPERSCRIPT ALEF~~",
   "cYEH WITH HAMZA ABOVE WITH REH FINAL~hZAIN~~hMEEM~~hNOON~~hALEF MAKSURA~~hYEH~~cBEH WITH REH~~",
   "eZAIN~~eMEEM~~eNOON~~eALEF MAKSURA~~eYEH~~cTEH WITH REH~~eZAIN~~eMEEM~~eNOON~~eALEF MAKSURA~~",
   "eYEH~~cTHEH WITH REH~~eZAIN~~eMEEM~~eNOON~~eALEF MAKSURA~~eYEH~~cFEH WITH ALEF MAKSURA~~eYEH~~",
   "cQAF WITH ALEF MAKSURA~~eYEH~~cKAF WITH ALEF~~eLAM~~eMEEM~~eALEF MAKSURA~~eYEH~~",
   "cLAM WITH MEEM~~eALEF MAKSURA~~eYEH~~cMEEM WITH ALEF~~eMEEM~~cNOON WITH REH~~eZAIN~~eMEEM~~",
   "eNOON~~eALEF MAKSURA~~eYEH~~cALEF MAKSURA WITH SUPERSCRIPT ALEF~~cYEH WITH REH~~eZAIN~~eMEEM~~",
   "eNOON~~eALEF MAKSURA~~eYEH~~eHAMZA ABOVE WITH JEEM INITIAL~hHAH~~hKHAH~~hMEEM~~hHEH~~",
   "cBEH WITH JEEM~~eHAH~~eKHAH~~eMEEM~~eHEH~~cTEH WITH JEEM~~eHAH~~eKHAH~~eMEEM~~eHEH~~",
   "cTHEH WITH MEEM~~cJEEM WITH HAH~~eMEEM~~cHAH WITH JEEM~~eMEEM~~cKHAH WITH JEEM~~eMEEM~~",
   "cSEEN WITH JEEM~~eHAH~~eKHAH~~eMEEM~~cSAD WITH HAH~~eKHAH~~eMEEM~~cDAD WITH JEEM~~eHAH~~",
   "eKHAH~~eMEEM~~cTAH WITH HAH~~cZAH WITH MEEM~~cAIN WITH JEEM~~eMEEM~~cGHAIN WITH JEEM~~eMEEM~~",
   "cFEH WITH JEEM~~eHAH~~eKHAH~~eMEEM~~cQAF WITH HAH~~eMEEM~~cKAF WITH JEEM~~eHAH~~eKHAH~~eLAM~~",
   "eMEEM~~cLAM WITH JEEM~~eHAH~~eKHAH~~eMEEM~~eHEH~~cMEEM WITH JEEM~~eHAH~~eKHAH~~eMEEM~~",
   "cNOON WITH JEEM~~eHAH~~eKHAH~~eMEEM~~eHEH~~cHEH WITH JEEM~~eMEEM~~eSUPERSCRIPT ALEF~~",
   "cYEH WITH JEEM~~eHAH~~eKHAH~~eMEEM~~eHEH~~eHAMZA ABOVE WITH MEEM MEDIAL~hHEH~~cBEH WITH MEEM~~",
   "eHEH~~cTEH WITH MEEM~~eHEH~~cTHEH WITH MEEM~~eHEH~~cSEEN WITH MEEM~~eHEH~~cSHEEN WITH MEEM~~",
   "eHEH~~cKAF WITH LAM~~eMEEM~~cLAM~~~~cNOON~~~~eHEH~~cYEH WITH MEEM~~eHEH~~cSHADDA WITH FATHA~~",
   "eDAMMA~~eKASRA~~cTAH WITH ALEF MAKSURA ISOLATED~eYEH~~cAIN WITH ALEF MAKSURA~~eYEH~~",
   "cGHAIN WITH ALEF MAKSURA~~eYEH~~cSEEN WITH ALEF MAKSURA~~eYEH~~cSHEEN WITH ALEF MAKSURA~~",
   "eYEH~~cHAH WITH ALEF MAKSURA~~eYEH~~cJEEM WITH ALEF MAKSURA~~eYEH~~cKHAH WITH ALEF MAKSURA~~",
   "eYEH~~cSAD WITH ALEF MAKSURA~~eYEH~~cDAD WITH ALEF MAKSURA~~eYEH~~cSHEEN WITH JEEM~~eHAH~~",
   "eKHAH~~eMEEM~~eREH~~cSEEN~~~~cSAD~~~~cDAD~~~~cTAH WITH ALEF MAKSURA FINAL~eYEH~~",
   "cAIN WITH ALEF MAKSURA~~eYEH~~cGHAIN WITH ALEF MAKSURA~~eYEH~~cSEEN WITH ALEF MAKSURA~~eYEH~~",
   "cSHEEN WITH ALEF MAKSURA~~eYEH~~cHAH WITH ALEF MAKSURA~~eYEH~~cJEEM WITH ALEF MAKSURA~~eYEH~~",
   "cKHAH WITH ALEF MAKSURA~~eYEH~~cSAD WITH ALEF MAKSURA~~eYEH~~cDAD WITH ALEF MAKSURA~~eYEH~~",
   "cSHEEN WITH JEEM~~eHAH~~eKHAH~~eMEEM~~eREH~~cSEEN~~~~cSAD~~~~cDAD~~~~cSHEEN WITH JEEM INITIAL~",
   "eHAH~~eKHAH~~eMEEM~~cSEEN WITH HEH~~cSHEEN~~~~cTAH WITH MEEM~~cSEEN WITH JEEM MEDIAL~eHAH~~",
   "eKHAH~~cSHEEN WITH JEEM~~eHAH~~eKHAH~~cTAH WITH MEEM~~cZAH~~~~cALEF WITH FATHATAN FINAL~",
   "fISOLATED~aORNATE LEFT PARENTHESISbRIGHT~aARABIC LIGATURE RAHIMAHU ALLAAHcRADI ALLAAHU ANH",
   "eANHAAeANHUMeANHUMAAeANHUNNAcSALLALLAAHU ALAYHI WA-AALIHcALAYHI AS-SALAAMcALAYHIM~cALAYHIMAA~",
   "cALAYHI AS-SALAATU WAS-SALAAMcQUDDISA SIRRAHcSALLALLAHU ALAYHI WAAALIHEE WA-SALLAM",
   "cALAYHAA AS-SALAAMcTABAARAKA WA-TAAALAAcRAHIMAHUM ALLAAHcTEH WITH JEEM WITH MEEM INITIAL FORM",
   "eHAH WITH JEEM FINAL~hINITIAL~gMEEM~~eKHAH~~~~eMEEM WITH JEEM~~gHAH~~gKHAH~~",
   "cJEEM WITH MEEM WITH HAH FINAL~hINITIAL~cHAH WITH MEEM WITH YEH FINAL~gALEF MAKSURA~~",
   "cSEEN WITH HAH WITH JEEM INITIAL~eJEEM WITH HAH~~gALEF MAKSURA FINAL~eMEEM WITH HAH~~hINITIAL~",
   "gJEEM~~gMEEM FINAL~hINITIAL~cSAD WITH HAH WITH HAH FINAL~hINITIAL~eMEEM WITH MEEM FINAL~",
   "cSHEEN WITH HAH~~~~hINITIAL~eJEEM WITH YEH FINAL~eMEEM WITH KHAH~~hINITIAL~gMEEM FINAL~",
   "hINITIAL~cDAD WITH HAH WITH ALEF MAKSURA FINAL~eKHAH WITH MEEM~~hINITIAL~",
   "cTAH WITH MEEM WITH HAH FINAL~hINITIAL~gMEEM~~gYEH FINAL~cAIN WITH JEEM WITH MEEM~~eMEEM~~~~",
   "hINITIAL~gALEF MAKSURA FINAL~cGHAIN WITH MEEM WITH MEEM~~gYEH~~gALEF MAKSURA~~",
   "cFEH WITH KHAH WITH MEEM~~hINITIAL~cQAF WITH MEEM WITH HAH FINAL~gMEEM~~cLAM WITH HAH~~~~",
   "gYEH~~gALEF MAKSURA~~eJEEM WITH JEEM INITIAL~hFINAL~eKHAH WITH MEEM~~hINITIAL~",
   "eMEEM WITH HAH FINAL~hINITIAL~cMEEM WITH HAH WITH JEEM~~gMEEM~~gYEH FINAL~",
   "eJEEM WITH HAH INITIAL~gMEEM~~eKHAH WITH JEEM~~gMEEM~~@FD92eJEEM WITH KHAH~~",
   "cHEH WITH MEEM WITH JEEM~~gMEEM~~cNOON WITH HAH~~~~gALEF MAKSURA FINAL~eJEEM WITH MEEM~~",
   "hINITIAL~gALEF MAKSURA FINAL~eMEEM WITH YEH~~gALEF MAKSURA~~cYEH WITH MEEM WITH MEEM~~",
   "hINITIAL~cBEH WITH KHAH WITH YEH FINAL~cTEH WITH JEEM~~~~gALEF MAKSURA~~eKHAH WITH YEH~~",
   "gALEF MAKSURA~~eMEEM WITH YEH~~gALEF MAKSURA~~cJEEM WITH MEEM WITH YEH~~",
   "eHAH WITH ALEF MAKSURA~~eMEEM~~~~~cSEEN WITH KHAH~~~~~cSAD WITH HAH WITH YEH~~cSHEEN~~~~~~",
   "cDAD~~~~~~cLAM WITH JEEM~~~~eMEEM~~~~cYEH WITH HAH~~~~eJEEM~~~~eMEEM~~~~cMEEM~~~~~~cQAF~~~~~~",
   "cNOON WITH HAH~~~~cQAF WITH MEEM WITH HAH INITIAL~cLAM WITH HAH WITH MEEM~~",
   "cAIN WITH MEEM WITH YEH FINAL~cKAF~~~~~~cNOON WITH JEEM WITH HAH INITIAL~",
   "cMEEM WITH KHAH WITH YEH FINAL~cLAM WITH JEEM WITH MEEM INITIAL~",
   "cKAF WITH MEEM WITH MEEM FINAL~cLAM WITH JEEM~~~~cNOON WITH JEEM WITH HAH~~",
   "cJEEM WITH HAH WITH YEH~~cHAH WITH JEEM~~~~cMEEM~~~~~~cFEH WITH MEEM~~~~cBEH WITH HAH~~~~",
   "cKAF WITH MEEM WITH MEEM INITIAL~cAIN WITH JEEM~~~~cSAD WITH MEEM~~~~",
   "cSEEN WITH KHAH WITH YEH FINAL~cNOON WITH JEEM~~~~@FDCFcSALAAMUHU ALAYNAA@FDF0",
   "cSALLA USED AS KORANIC STOP SIGN ISOLATED FORMcQALA~~~~~~~cALLAH~~cAKBAR~~cMOHAMMAD~~cSALAM~~",
   "cRASOUL~~cALAYHE~~cWASALLAM~~cSALLA~~cSALLALLAHOU ALAYHE WASALLAMcJALLAJALALOUHOUaRIAL SIGN",
   "aARABIC LIGATURE BISMILLAH AR-RAHMAN AR-RAHEEMcSUBHAANAHU WA TAAALAAcAZZA WA JALL",
   "aVARIATION SELECTOR-1+15aPRESENTATION FORM FOR VERTICAL COMMAeIDEOGRAPHIC~fFULL STOPeCOLON",
   "eSEMICOLONeEXCLAMATION MARKeQUESTION~eLEFT WHITE LENTICULAR BRACKET",
   "eRIGHT WHITE LENTICULAR BRAKCETeHORIZONTAL ELLIPSIS@FE20aCOMBINING LIGATURE LEFT HALFcRIGHT~",
   "bDOUBLE TILDE LEFT~dRIGHT~bMACRON LEFT~cRIGHT~bCONJOINING MACRONbLIGATURE LEFT HALF BELOW",
   "cRIGHT~~bTILDE LEFT~~cRIGHT~~bMACRON LEFT~~cRIGHT~~bCONJOINING MACRON~",
   "bCYRILLIC TITLO LEFT HALFdRIGHT~aPRESENTATION FORM FOR VERTICAL TWO DOT LEADEReEM DASHeEN~",
   "eLOW LINEeWAVY~~eLEFT PARENTHESISeRIGHT~eLEFT CURLY BRACKETeRIGHT~~eLEFT TORTOISE SHELL~",
   "eRIGHT~~~eLEFT BLACK LENTICULAR~eRIGHT~~~eLEFT DOUBLE ANGLE~eRIGHT~~~eLEFT~~eRIGHT~~",
   "eLEFT CORNER~eRIGHT~~eLEFT WHITE~~eRIGHT~~~aSESAME DOTaWHITE~~",
   "aPRESENTATION FORM FOR VERTICAL LEFT SQUARE BRACKETeRIGHT~~aDASHED OVERLINEaCENTRELINE~aWAVY~",
   "aDOUBLE~~aDASHED LOW LINEaCENTRELINE~~aWAVY~~aSMALL COMMAbIDEOGRAPHIC~bFULL STOP@FE54",
   "bSEMICOLONbCOLONbQUESTION MARKbEXCLAMATION~bEM DASHbLEFT PARENTHESISbRIGHT~bLEFT CURLY BRACKET",
   "bRIGHT~~bLEFT TORTOISE SHELL~bRIGHT~~~bNUMBER SIGNbAMPERSANDbASTERISKbPLUS SIGNbHYPHEN-MINUS",
   "bLESS-THAN SIGNbGREATER-THAN~bEQUALS~@FE68bREVERSE SOLIDUSbDOLLAR SIGNbPERCENT~bCOMMERCIAL AT",
   "@FE70aARABIC FATHATAN ISOLATED FORMbTATWEEL WITH FATHATAN ABOVEbDAMMATAN ISOLATED FORM",
   "bTAIL FRAGMENTbKASRATAN ISOLATED FORM@FE76bFATHA~~cMEDIAL~bDAMMA ISOLATED~cMEDIAL~",
   "bKASRA ISOLATED~cMEDIAL~bSHADDA ISOLATED~cMEDIAL~bSUKUN ISOLATED~cMEDIAL~",
   "bLETTER HAMZA ISOLATED~cALEF WITH MADDA ABOVE~~gFINAL~eHAMZA ABOVE ISOLATED~gFINAL~",
   "cWAW WITH HAMZA ABOVE ISOLATED~gFINAL~cALEF WITH HAMZA BELOW ISOLATED~gFINAL~",
   "cYEH WITH HAMZA ABOVE ISOLATED~gFINAL~gINITIAL~gMEDIAL~cALEF ISOLATED~dFINAL~cBEH ISOLATED~",
   "dFINAL~dINITIAL~dMEDIAL~cTEH MARBUTA ISOLATED~eFINAL~dISOLATED~dFINAL~dINITIAL~dMEDIAL~",
   "cTHEH ISOLATED~dFINAL~dINITIAL~dMEDIAL~cJEEM ISOLATED~dFINAL~dINITIAL~dMEDIAL~cHAH ISOLATED~",
   "dFINAL~dINITIAL~dMEDIAL~cKHAH ISOLATED~dFINAL~dINITIAL~dMEDIAL~cDAL ISOLATED~dFINAL~",
   "cTHAL ISOLATED~dFINAL~cREH ISOLATED~dFINAL~cZAIN ISOLATED~dFINAL~cSEEN ISOLATED~dFINAL~",
   "dINITIAL~dMEDIAL~cSHEEN ISOLATED~dFINAL~dINITIAL~dMEDIAL~cSAD ISOLATED~dFINAL~dINITIAL~",
   "dMEDIAL~cDAD ISOLATED~dFINAL~dINITIAL~dMEDIAL~cTAH ISOLATED~dFINAL~dINITIAL~dMEDIAL~",
   "cZAH ISOLATED~dFINAL~dINITIAL~dMEDIAL~cAIN ISOLATED~dFINAL~dINITIAL~dMEDIAL~cGHAIN ISOLATED~",
   "dFINAL~dINITIAL~dMEDIAL~cFEH ISOLATED~dFINAL~dINITIAL~dMEDIAL~cQAF ISOLATED~dFINAL~dINITIAL~",
   "dMEDIAL~cKAF ISOLATED~dFINAL~dINITIAL~dMEDIAL~cLAM ISOLATED~dFINAL~dINITIAL~dMEDIAL~",
   "cMEEM ISOLATED~dFINAL~dINITIAL~dMEDIAL~cNOON ISOLATED~dFINAL~dINITIAL~dMEDIAL~cHEH ISOLATED~",
   "dFINAL~dINITIAL~dMEDIAL~cWAW ISOLATED~dFINAL~cALEF MAKSURA ISOLATED~eFINAL~cYEH ISOLATED~",
   "dFINAL~dINITIAL~dMEDIAL~bLIGATURE LAM WITH ALEF WITH MADDA ABOVE ISOLATED~iFINAL~",
   "gHAMZA ABOVE ISOLATED~iFINAL~hBELOW ISOLATED~iFINAL~fISOLATED~fFINAL~@FEFF",
   "aZERO WIDTH NO-BREAK SPACE@FF01aFULLWIDTH EXCLAMATION MARKbQUOTATION~bNUMBER SIGNbDOLLAR~",
   "bPERCENT~bAMPERSANDbAPOSTROPHEbLEFT PARENTHESISbRIGHT~bASTERISKbPLUS SIGNbCOMMAbHYPHEN-MINUS",
   "bFULL STOPbSOLIDUSbDIGIT ZEROcONEcTWOcTHREEcFOURcFIVEcSIXcSEVENcEIGHTcNINEbCOLONbSEMICOLON",
   "bLESS-THAN SIGNbEQUALS~bGREATER-THAN~bQUESTION MARKbCOMMERCIAL ATbLATIN CAPITAL LETTER AeBeCeD",
   "eEeFeGeHeIeJeKeLeMeNeOePeQeReSeTeUeVeWeXeYeZbLEFT SQUARE BRACKETbREVERSE SOLIDUS",
   "bRIGHT SQUARE BRACKETbCIRCUMFLEX ACCENTbLOW LINEbGRAVE ACCENTbLATIN SMALL LETTER AeBeCeDeEeFeG",
   "eHeIeJeKeLeMeNeOePeQeReSeTeUeVeWeXeYeZbLEFT CURLY BRACKETbVERTICAL LINEbRIGHT CURLY BRACKET",
   "bTILDEbLEFT WHITE PARENTHESISbRIGHT~~aHALFWIDTH IDEOGRAPHIC FULL STOPbLEFT CORNER BRACKET",
   "bRIGHT~~bIDEOGRAPHIC COMMAbKATAKANA MIDDLE DOTcLETTER WOdSMALL AeIeUeEeOeYAeYUeYOeTU",
   "bKATAKANA-HIRAGANA PROLONGED SOUND MARKbKATAKANA LETTER AdIdUdEdOdKAdKIdKUdKEdKOdSAdSIdSUdSE",
   "dSOdTAdTIdTUdTEdTOdNAdNIdNUdNEdNOdHAdHIdHUdHEdHOdMAdMIdMUdMEdMOdYAdYUdYOdRAdRIdRUdREdROdWAdN",
   "cVOICED SOUND MARKcSEMI-VOICED~~bHANGUL FILLERcLETTER KIYEOKdSSANGKIYEOKdKIYEOK-SIOSdNIEUN",
   "dNIEUN-CIEUCdNIEUN-HIEUHdTIKEUTdSSANGTIKEUTdRIEULdRIEUL-KIYEOKdRIEUL-MIEUMdRIEUL-PIEUP",
   "dRIEUL-SIOSdRIEUL-THIEUTHdRIEUL-PHIEUPHdRIEUL-HIEUHdMIEUMdPIEUPdSSANGPIEUPdPIEUP-SIOSdSIOS",
   "dSSANGSIOSdIEUNGdCIEUCdSSANGCIEUCdCHIEUCHdKHIEUKHdTHIEUTHdPHIEUPHdHIEUH@FFC2dAdAEdYAdYAEdEOdE",
   "@FFCAdYEOdYEdOdWAdWAEdOE@FFD2dYOdUdWEOdWEdWIdYU@FFDAdEUdYIdI@FFE0aFULLWIDTH CENT SIGNbPOUND~",
   "bNOT~bMACRONbBROKEN BARbYEN SIGNbWON~@FFE8aHALFWIDTH FORMS LIGHT VERTICALbLEFTWARDS ARROW",
   "bUPWARDS~bRIGHTWARDS~bDOWNWARDS~bBLACK SQUAREbWHITE CIRCLE@FFF9aINTERLINEAR ANNOTATION ANCHOR",
   "cSEPARATORcTERMINATORaOBJECT REPLACEMENT CHARACTERa~~"]

end ClassSchema.Text.CharacterName
