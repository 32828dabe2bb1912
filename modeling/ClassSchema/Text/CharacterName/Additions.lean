/-!
# Character names: additions

The part of the table of character names from U+1700 to U+1FFF: the scripts of South-East Asia,
and additions to alphabets.
-/

namespace ClassSchema.Text.CharacterName

/-- The names of the scripts of South-East Asia, and additions to alphabets. -/
def additions : List String :=
  ["@1700aTAGALOG LETTER AcIcUcKAcGAcNGAcTAcDAcNAcPAcBAcMAcYAcRAcLAcWAcSAcHAbVOWEL SIGN IdU",
   "bSIGN VIRAMAcPAMUDPOD@171FbLETTER ARCHAIC RAaHANUNOO LETTER AcIcUcKAcGAcNGAcTAcDAcNAcPAcBAcMA",
   "cYAcRAcLAcWAcSAcHAbVOWEL SIGN IdUbSIGN PAMUDPODaPHILIPPINE SINGLE PUNCTUATIONbDOUBLE~@1740",
   "aBUHID LETTER AcIcUcKAcGAcNGAcTAcDAcNAcPAcBAcMAcYAcRAcLAcWAcSAcHAbVOWEL SIGN IdU@1760",
   "aTAGBANWA LETTER AcIcUcKAcGAcNGAcTAcDAcNAcPAcBAcMAcYA@176EcLAcWAcSA@1772bVOWEL SIGN IdU@1780",
   "aKHMER LETTER KAcKHAcKOcKHOcNGOcCAcCHAcCOcCHOcNYOcDAcTTHAcDOcTTHOcNNOcTAcTHAcTOcTHOcNOcBAcPHA",
   "cPOcPHOcMOcYOcROcLOcVOcSHAcSSOcSAcHAcLAcQAbINDEPENDENT VOWEL QAQdQAAdQIdQIIdQUdQUKdQUUdQUUVdRY",
   "dRYYdLYdLYYdQEdQAIdQOO TYPE ONEfTWOdQAUbVOWEL INHERENT AQdAAcSIGN~dIdIIdYdYYdUdUUdUAdOEdYAdIE",
   "dEdAEdAIdOOdAUbSIGN NIKAHITcREAHMUKcYUUKALEAPINTUcMUUSIKATOANcTRIISAPcBANTOCcROBATcTOANDAKHIAT",
   "cKAKABATcAHSDAcSAMYOK SANNYAcVIRIAMcCOENGcBATHAMASATcKHANcBARIYOOSANcCAMNUC PII KUUHcLEK TOO",
   "cBEYYALcPHNAEK MUANcKOOMUUTbCURRENCY SYMBOL RIELbSIGN AVAKRAHASANYAcATTHACAN@17E0bDIGIT ZERO",
   "cONEcTWOcTHREEcFOURcFIVEcSIXcSEVENcEIGHTcNINE@17F0bSYMBOL LEK ATTAK SONeMUOYePIIeBEIeBUONePRAM",
   "ePRAM-MUOYePRAM-PIIePRAM-BEIePRAM-BUON@1800aMONGOLIAN BIRGAbELLIPSISbCOMMAbFULL STOPbCOLON",
   "bFOUR DOTSbTODO SOFT HYPHENbSIBE SYLLABLE BOUNDARY MARKERbMANCHU COMMAcFULL STOPbNIRUGU",
   "bFREE VARIATION SELECTOR ONEeTWOeTHREEbVOWEL SEPARATORbFREE VARIATION SELECTOR FOURbDIGIT ZERO",
   "cONEcTWOcTHREEcFOURcFIVEcSIXcSEVENcEIGHTcNINE@1820bLETTER AcEcIcOcUcOEcUEcEEcNAcANGcBAcPAcQA",
   "cGAcMAcLAcSAcSHAcTAcDAcCHAcJAcYAcRAcWAcFAcKAcKHAcTSAcZAcHAAcZRAcLHAcZHIcCHI",
   "cTODO LONG VOWEL SIGNdEdIdOdUdOEdUEdANGdBAdPAdQAdGAdMAdTAdDAdCHAdJAdTSAdYAdWAdKAdGAAdHAAdJIA",
   "dNIAdDZAcSIBE EdIdIYdUEdUdANGdKAdGAdHAdPAdSHAdTAdDAdJAdFAdGAAdHAAdTSAdZAdRAAdCHAdZHAcMANCHU I",
   "dKAdRAdFAdZHAcCHA WITH TWO DOTS@1880cALI GALI ANUSVARA ONEeVISARGA~eDAMARUeUBADAMAeINVERTED~",
   "eBALUDAeTHREE~eAeIeKAeNGAeCAeTTAeTTHAeDDAeNNAeTAeDAePAePHAeSSAeZHAeZAeAHcTODO ALI GALI TAfZHA",
   "cMANCHU ALI GALI GHAfNGAfCAfJHAfTTAfDDHAfTAfDHAfSSAfCYAfZHAfZAcALI GALI HALF UfYA",
   "cMANCHU ALI GALI BHAcALI GALI DAGALGAcMANCHU ALI GALI LHA@18B0aCANADIAN SYLLABICS OYcAYcAAY",
   "cWAYcPOYcPAYcPWOYcTAYcKAYcKWAYcMAYcNOYcNAYcLAYcSOYcSAYcSHOYcSHAYcSHWOYcYOYcYAYcRAYcNWI",
   "cOJIBWAY~cNWIIcOJIBWAY~cNWOcOJIBWAY~cNWOOcOJIBWAY~cRWEEcRWIcRWIIcRWOcRWOOcRWAcOJIBWAY PdTdKdC",
   "dMdNdSdSHcEASTERN WcWESTERN~cFINAL SMALL RINGdRAISED DOTcR-CREE RWEcWEST-CREE LOOdLAAcTHWE",
   "cTHWAcTTHWEcTTHOOcTTHAAcTLHWEcTLHOOcSAYISI SHWEdSHOOdHOOcCARRIER GWUdDENE GEEdGAAdGWA",
   "cSAYISI JUUcCARRIER JWAcBEAVER DENE LeRcCARRIER DENTAL S@1900aLIMBU VOWEL-CARRIER LETTER",
   "bLETTER KAcKHAcGAcGHAcNGAcCAcCHAcJAcJHAcYANcTAcTHAcDAcDHAcNAcPAcPHAcBAcBHAcMAcYAcRAcLAcWAcSHA",
   "cSSAcSAcHAcGYANcTRA@1920bVOWEL SIGN AdIdUdEEdAIdOOdAUdEdObSUBJOINED LETTER YAdRAdWA@1930",
   "bSMALL LETTER KAdNGAdANUSVARAdTAdNAdPAdMAdRAdLAbSIGN MUKPHRENGcKEMPHRENGcSA-I@1940cLOO@1944",
   "bEXCLAMATION MARKbQUESTION~bDIGIT ZEROcONEcTWOcTHREEcFOURcFIVEcSIXcSEVENcEIGHTcNINE",
   "aTAI LE LETTER KAdXAdNGAdTSAdSAdYAdTAdTHAdLAdPAdPHAdMAdFAdVAdHAdQAdKHAdTSHAdNAdAdIdEEdEHdUdOO",
   "dOdUEdEdAUEdAI@1970dTONE-2+4@1980aNEW TAI LUE LETTER HIGH QAeLOW~eHIGH KAfXAfNGAeLOW KAfXAfNGA",
   "eHIGH TSAfSAfYAeLOW TSAfSAfYAeHIGH TAfTHAfNAeLOW TAfTHAfNAeHIGH PAfPHAfMAeLOW PAfPHAfMA",
   "eHIGH FAfVAfLAeLOW FAfVAfLAeHIGH HAfDAfBAeLOW HAfDAfBAeHIGH KVAfXVAeLOW KVAfXVAeHIGH SUAeLOW~",
   "@19B0dVOWEL SIGN VOWEL SHORTENERfAAfIIfUfUUfEfAEfOfOAfUEfAYfAAYfUYfOYfOAYfUEYfIY",
   "dLETTER FINAL VfNGfNfMfKfDfBdTONE MARK-1+1@19D0dDIGIT ZEROeONEeTWOeTHREEeFOUReFIVEeSIXeSEVEN",
   "eEIGHTeNINEdTHAM DIGIT ONE@19DEdSIGN LAEeLAEVaKHMER SYMBOL PATHAMASATcMUOY KOETcPII~cBEI~",
   "cBUON~cPRAM~cPRAM-MUOY~cPRAM-PII~cPRAM-BEI~cPRAM-BUON~cDAP~cDAP-MUOY~cDAP-PII~cDAP-BEI~",
   "cDAP-BUON~cDAP-PRAM~cTUTEYASATcMUOY ROCcPII~cBEI~cBUON~cPRAM~cPRAM-MUOY~cPRAM-PII~cPRAM-BEI~",
   "cPRAM-BUON~cDAP~cDAP-MUOY~cDAP-PII~cDAP-BEI~cDAP-BUON~cDAP-PRAM~aBUGINESE LETTER KAcGAcNGA",
   "cNGKAcPAcBAcMAcMPAcTAcDAcNAcNRAcCAcJAcNYAcNYCAcYAcRAcLAcVAcSAcAcHAbVOWEL SIGN IdUdEdOdAE@1A1E",
   "bPALLAWAbEND OF SECTIONaTAI THAM LETTER HIGH KAeKHAeKXAdLOW KAeKXAeKHAdNGAdHIGH CAeCHAdLOW CA",
   "eSAeCHAdNYAdRATAdHIGH RATHAdDAdLOW RATHAdRANAdHIGH TAeTHAdLOW TAeTHAdNAdBAdHIGH PAePHAeFA",
   "dLOW PAeFAePHAdMAdLOW YAdHIGH~dRAdRUEdLAdLUEdWAdHIGH SHAeSSAeSAeHAdLLAdAdLOW HAdIdIIdUdUUdEE",
   "dOOdLAEdGREAT SAcCONSONANT SIGN MEDIAL RAfLAeLA TANG LAIcSIGN MAI KANG~",
   "cCONSONANT SIGN FINAL NGAeLOW PAeHIGH RATHA OR~~eMAeBAeSA@1A60cSIGN SAKOTcVOWEL SIGN AeMAI SAT",
   "eAAeTALL~eIeIIeUEeUUEeUeUUeOeOA BELOWeOYeEeAEeOOeAIeTHAM~eOA ABOVEcSIGN MAI KANGdTONE-1+1",
   "dKHUEN TONE-3+2dRA HAAMdMAI SAMdKHUEN-LUE KARAN@1A7FcCOMBINING CRYPTOGRAMMIC DOT",
   "cHORA DIGIT ZEROeONEeTWOeTHREEeFOUReFIVEeSIXeSEVENeEIGHTeNINE@1A90cTHAM DIGIT ZEROeONEeTWO",
   "eTHREEeFOUReFIVEeSIXeSEVENeEIGHTeNINE@1AA0cSIGN WIANGdWIANGWAAKdSAWANdKEOWdHOYdDOKMAI",
   "dREVERSED ROTATED RANAdMAI YAMOKdKAANdKAANKUUdSATKAANdSATKAANKUUdHANGdCAANG@1AB0",
   "aCOMBINING DOUBLED CIRCUMFLEX ACCENTbDIAERESIS-RINGbINFINITYbDOWNWARDS ARROWbTRIPLE DOT",
   "bX-X BELOWbWIGGLY LINE~bOPEN MARK~bDOUBLE~~~bLIGHT CENTRALIZATION STROKE~bSTRONG~~~",
   "bPARENTHESES ABOVEbDOUBLE~~bPARENTHESES BELOWcOVERLAYbLATIN SMALL LETTER W BELOWeTURNED~~",
   "bLEFT PARENTHESIS ABOVE LEFTbRIGHT PARENTHESIS ABOVE RIGHTbLEFT PARENTHESIS BELOW LEFT",
   "bRIGHT PARENTHESIS BELOW RIGHTbSQUARE BRACKETS ABOVEbNUMBER SIGN~bINVERTED DOUBLE ARCH~",
   "bPLUS SIGN~bDOUBLE~~~eBELOWbTRIPLE ACUTE ACCENTbLATIN SMALL LETTER INSULAR GfRfT@1B00",
   "aBALINESE SIGN ULU RICEMdCANDRAcCECEKcSURANGcBISAHbLETTER AKARAdTEDUNGcIKARAdTEDUNGcUKARA",
   "dTEDUNGcRA REPAeTEDUNGcLA LENGAeTEDUNGcEKARAcAIKARAcOKARAdTEDUNGcKAdMAHAPRANAcGAdGORAcNGAcCA",
   "dLACAcJAdJERAcNYAcTA LATIKdMURDA MAHAPRANAcDA MURDA ALPAPRANAeMAHAPRANAcNA RAMBATcTAdTAWAcDA",
   "dMADUcNAcPAdKAPALcBAdKEMBANGcMAcYAcRAcLAcWAcSA SAGAdSAPAdcHAbSIGN REREKANbVOWEL SIGN TEDUNG",
   "dULUeSARIdSUKUeILUTdRA REPAfTEDUNGdLA LENGAfTEDUNGdTALINGeREPAeTEDUNGeREPA~dPEPETeTEDUNG",
   "bADEG ADEGbLETTER KAF SASAKcKHOT~cTZIR~cEF~cVE~cZAL~cASYURA~cARCHAIC JNYA@1B50bDIGIT ZEROcONE",
   "cTWOcTHREEcFOURcFIVEcSIXcSEVENcEIGHTcNINEbPANTIbPAMADAbWINDUbCARIK PAMUNGKAHcSIKIcPAREREN",
   "bPAMENENGbMUSICAL SYMBOL DONGdDENGdDUNGdDANGeSURANGdDINGdDAENGdDEUNGdDAINGdDANG GEDE",
   "dCOMBINING TEGEHeENDEPeKEMPULeKEMPLIeJEGOGANeKEMPUL WITH~eKEMPLI~~eBENDEeGONG",
   "dRIGHT-HAND OPEN DUGfDAGeCLOSED TUKfTAKdLEFT-HAND OPEN PANGfPUNGeCLOSED PLAKfPLUKeOPEN PING",
   "bPANTI LANTANGbPAMADA~@1B80aSUNDANESE SIGN PANYECEKcPANGLAYARcPANGWISADbLETTER AcIcUcAEcOcEcEU",
   "cKAcQAcGAcNGAcCAcJAcZAcNYAcTAcDAcNAcPAcFAcVAcBAcMAcYAcRAcLAcWAcSAcXAcHA",
   "bCONSONANT SIGN PAMINGKALdPANYAKRAdPANYIKUbVOWEL SIGN PANGHULUdPANYUKUdPANAELAENGdPANOLONG",
   "dPAMEPETdPANEULEUNGbSIGN PAMAAEHcVIRAMAbCONSONANT SIGN PASANGAN MAeWAbLETTER KHAcSYA",
   "bDIGIT ZEROcONEcTWOcTHREEcFOURcFIVEcSIXcSEVENcEIGHTcNINEbAVAGRAHAbLETTER REUcLEUcBHAcFINAL KdM",
   "aBATAK LETTER AcSIMALUNGUN~cHAcSIMALUNGUN~cMANDAILING~cBAcKARO~cPAcSIMALUNGUN~cNAcMANDAILING~",
   "cWAcSIMALUNGUN~cPAKPAK~cGAcSIMALUNGUN~cJAcDAcRAcSIMALUNGUN~cMAcSIMALUNGUN~cSOUTHERN TA",
   "cNORTHERN~cSAcSIMALUNGUN~cMANDAILING~cYAcSIMALUNGUN~cNGAcLAcSIMALUNGUN~cNYAcCAcNDAcMBAcIcU",
   "bSIGN TOMPIbVOWEL SIGN EdPAKPAK~dEEdIdKARO~dOdKARO~dUeFOR SIMALUNGUN SAbCONSONANT SIGN NGdH",
   "bPANGOLATbPANONGONAN@1BFCbSYMBOL BINDU NA METEKdPINARBORASdJUDULdPANGOLATaLEPCHA LETTER KAcKLA",
   "cKHAcGAcGLAcNGAcCAcCHAcJAcNYAcTAcTHAcDAcNAcPAcPLAcPHAcFAcFLAcBAcBLAcMAcMLAcTSAcTSHAcDZAcYAcRA",
   "cLAcHAcHLAcVAcSAcSHAcWAcAbSUBJOINED LETTER YAdRAbVOWEL SIGN AAdIdOdOOdUdUUdEbCONSONANT SIGN K",
   "dMdLdNdPdRdTdNYIN-DOdKANGbSIGN RANcNUKTA@1C3BbPUNCTUATION TA-ROLcNYET THYOOM~cCER-WAcTSHOOK~d",
   "bDIGIT ZEROcONEcTWOcTHREEcFOURcFIVEcSIXcSEVENcEIGHTcNINE@1C4DbLETTER TTAcTTHAcDDA",
   "aOL CHIKI DIGIT ZEROdONEdTWOdTHREEdFOURdFIVEdSIXdSEVENdEIGHTdNINEcLETTER LAdATdAGdANGdALdLAA",
   "dAAKdAAJdAAMdAAWdLIdISdIHdINYdIRdLUdUCdUDdUNNdUYdLEdEPdEDDdENdERRdLOdOTTdOBdOVdOHcMU TTUDDAG",
   "cGAAHLAA TTUDDAAGcMU-GAAHLAA~cRELAAcPHAARKAAcAHADcPUNCTUATION MUCAADdDOUBLE~",
   "aCYRILLIC SMALL LETTER ROUNDED VEdLONG-LEGGED DEdNARROW OdWIDE ESdTALL TEdTHREE-LEGGED~",
   "dTALL HARD SIGNeYATdUNBLENDED UK@1C90aGEORGIAN MTAVRULI CAPITAL LETTER ANeBANeGANeDONeENeVIN",
   "eZENeTANeINeKANeLASeMANeNAReONePAReZHAReRAEeSANeTAReUNePHAReKHAReGHANeQAReSHINeCHINeCANeJIL",
   "eCILeCHAReXANeJHANeHAEeHEeHIEeWEeHAReHOEeFIeYNeELIFIeTURNED GANeAIN@1CBDeAENeHARD SIGNeLABIAL~",
   "aSUNDANESE PUNCTUATION BINDU SURYAdPANGLONGdPURNAMAdCAKRAdLEU SATANGAdKA~dDA~dBA~@1CD0",
   "aVEDIC TONE KARSHANAcSHARAcPRENKHAbSIGN NIHSHVASAcYAJURVEDIC MIDLINE SVARITA",
   "bTONE YAJURVEDIC AGGRAVATED INDEPENDENT~d~~dKATHAKA~~cCANDRA BELOW",
   "cYAJURVEDIC KATHAKA INDEPENDENT SVARITA SCHROEDERcDOUBLE SVARITAcTRIPLE~cKATHAKA ANUDATTA",
   "cDOT BELOWcTWO DOTS~cTHREE~~cRIGVEDIC KASHMIRI INDEPENDENT SVARITAcATHARVAVEDIC~~",
   "bSIGN VISARGA~dUDATTAcREVERSED~~cVISARGA ANUDATTAcREVERSED~~cVISARGA UDATTA WITH TAIL",
   "dANUDATTA~~cANUSVARA ANTARGOMUKHAdBAHIRGOMUKHAdVAMAGOMUKHAeWITH TAILcTIRYAK",
   "cHEXIFORM LONG ANUSVARAc~~cRTHANG~~cANUSVARA UBHAYATO MUKHAcARDHAVISARGAcROTATED~",
   "bTONE CANDRA ABOVEbSIGN JIHVAMULIYAcUPADHMANIYAcATIKRAMAbTONE RING ABOVEcDOUBLE~~",
   "bSIGN DOUBLE ANUSVARA ANTARGOMUKHA@1D00aLATIN LETTER SMALL CAPITAL AeAEbSMALL LETTER TURNED~",
   "bLETTER SMALL CAPITAL BARRED BeCeDeETHeEbSMALL LETTER TURNED OPEN~eIbLETTER SMALL CAPITAL JeK",
   "eL WITH STROKEeMeREVERSED NeOeOPEN~bSMALL LETTER SIDEWAYS~eOPEN~eO WITH STROKEdTURNED OE",
   "bLETTER SMALL CAPITAL OUbSMALL LETTER TOP HALF OdBOTTOM~~bLETTER SMALL CAPITAL PeREVERSED R",
   "eTURNED~eTeUbSMALL LETTER SIDEWAYS~eDIAERESIZED~eTURNED MbLETTER SMALL CAPITAL VeWeZeEZH",
   "cVOICED LARYNGEAL SPIRANTcAINaGREEK LETTER SMALL CAPITAL GAMMAeLAMDAePIeRHOePSI",
   "aCYRILLIC LETTER SMALL CAPITAL ELaMODIFIER LETTER CAPITAL AdAEdBdBARRED~dDdEdREVERSED~dGdHdIdJ",
   "dKdLdMdNdREVERSED~dOdOUdPdRdTdUdWcSMALL AdTURNED~dALPHAdTURNED AEdBdDdEdSCHWAdOPEN EdTURNED~~",
   "dGdTURNED IdKdMdENGdOdOPEN~dTOP HALF~dBOTTOM~~dPdTdUdSIDEWAYS~dTURNED MdVdAINdBETAdGREEK GAMMA",
   "dDELTAdGREEK PHIdCHIaLATIN SUBSCRIPT SMALL LETTER IeReUeVaGREEK SUBSCRIPT SMALL LETTER BETA",
   "eGAMMAeRHOePHIeCHIaLATIN SMALL LETTER UEdB WITH MIDDLE TILDEdD~~~dF~~~dM~~~dN~~~dP~~~dR~~~",
   "fFISHHOOK AND~~dS WITH~~dT~~~dZ~~~dTURNED GaMODIFIER LETTER CYRILLIC EN",
   "aLATIN SMALL LETTER INSULAR GdTH WITH STRIKETHROUGHcCAPITAL LETTER I WITH STROKEcLETTER IOTA~~",
   "dP~~cCAPITAL LETTER U~~cLETTER UPSILON~~dB WITH PALATAL HOOKdD~~~dF~~~dG~~~dK~~~dL~~~dM~~~",
   "dN~~~dP~~~dR~~~dS~~~dESH~~~dV~~~dX~~~dZ~~~dA WITH RETROFLEX~dALPHA~~~dD WITH HOOK AND TAIL",
   "dE WITH RETROFLEX HOOKdOPEN~~~~dREVERSED~~~~~dSCHWA~~~dI~~~dOPEN O~~~dESH~~~dU~~~dEZH~~~",
   "aMODIFIER LETTER SMALL TURNED ALPHAdCeWITH CURLdETHdREVERSED OPEN EdFdDOTLESS J WITH STROKE",
   "dSCRIPT GdTURNED HdI WITH STROKEdIOTAdCAPITAL IfWITH STROKEdJ WITH CROSSED-TAIL",
   "dL WITH RETROFLEX HOOKfPALATAL~dCAPITAL LdM WITH HOOKdTURNED M WITH LONG LEGdN WITH LEFT HOOK",
   "fRETROFLEX~dCAPITAL NdBARRED OdPHIdS WITH HOOKdESHdT WITH PALATAL HOOKdU BARdUPSILONdCAPITAL U",
   "dV WITH HOOKdTURNED VdZeWITH RETROFLEX HOOKfCURLdEZHdTHETAaCOMBINING DOTTED GRAVE ACCENT",
   "cACUTE~bSNAKE BELOWbSUSPENSION MARKbMACRON-ACUTEbGRAVE-MACRONbMACRON-GRAVEbACUTE-MACRON",
   "bGRAVE-ACUTE-GRAVEbACUTE-GRAVE-ACUTEbLATIN SMALL LETTER R BELOWbBREVE-MACRONbMACRON-BREVE",
   "bDOUBLE CIRCUMFLEX ABOVEbOGONEK~bZIGZAG BELOWbIS~bUR ABOVEbUS~",
   "bLATIN SMALL LETTER FLATTENED OPEN A~eAEeAOeAVeC CEDILLAeINSULAR DeETHeGcLETTER SMALL CAPITAL~",
   "cSMALL LETTER KeLcLETTER SMALL CAPITAL~fMcSMALL LETTER NcLETTER SMALL CAPITAL~fR",
   "cSMALL LETTER R ROTUNDAeSeLONG~eZeALPHAeBeBETAeSCHWAeFeL WITH DOUBLE MIDDLE TILDE",
   "eO WITH LIGHT CENTRALIZATION STROKEePeESHeU WITH LIGHT CENTRALIZATION STROKEeW",
   "eA WITH DIAERESISeO~~eU~~bUP TACK ABOVEbKAVYKA ABOVE RIGHTdLEFTbDOT~~",
   "bWIDE INVERTED BRIDGE BELOWbDOT BELOW LEFTbDELETION MARKbDOUBLE INVERTED BREVE BELOW",
   "bALMOST EQUAL TO~bLEFT ARROWHEAD ABOVEbRIGHT ARROWHEAD AND DOWN ARROWHEAD BELOW",
   "aLATIN CAPITAL LETTER A WITH RING~bSMALL~~~~~bCAPITAL LETTER B WITH DOT ABOVEbSMALL~~~~~",
   "bCAPITAL LETTER B WITH DOT BELOWbSMALL~~~~~bCAPITAL LETTER B WITH LINE~bSMALL~~~~~",
   "bCAPITAL LETTER C WITH CEDILLA AND ACUTEbSMALL~~~~~~bCAPITAL LETTER D WITH DOT ABOVE",
   "bSMALL~~~~~bCAPITAL LETTER D WITH DOT BELOWbSMALL~~~~~bCAPITAL LETTER D WITH LINE~bSMALL~~~~~",
   "bCAPITAL LETTER D WITH CEDILLAbSMALL~~~~bCAPITAL LETTER D WITH CIRCUMFLEX BELOWbSMALL~~~~~",
   "bCAPITAL LETTER E WITH MACRON AND GRAVEbSMALL~~~~~~bCAPITAL LETTER E WITH MACRON AND ACUTE",
   "bSMALL~~~~~~bCAPITAL LETTER E WITH CIRCUMFLEX BELOWbSMALL~~~~~bCAPITAL LETTER E WITH TILDE~",
   "bSMALL~~~~~bCAPITAL LETTER E WITH CEDILLA AND BREVEbSMALL~~~~~~",
   "bCAPITAL LETTER F WITH DOT ABOVEbSMALL~~~~~bCAPITAL LETTER G WITH MACRONbSMALL~~~~",
   "bCAPITAL LETTER H WITH DOT ABOVEbSMALL~~~~~bCAPITAL LETTER H WITH DOT BELOWbSMALL~~~~~",
   "bCAPITAL LETTER H WITH DIAERESISbSMALL~~~~bCAPITAL LETTER H WITH CEDILLAbSMALL~~~~",
   "bCAPITAL LETTER H WITH BREVE BELOWbSMALL~~~~~bCAPITAL LETTER I WITH TILDE~bSMALL~~~~~",
   "bCAPITAL LETTER I WITH DIAERESIS AND ACUTEbSMALL~~~~~~bCAPITAL LETTER K WITH~bSMALL~~~~",
   "bCAPITAL LETTER K WITH DOT BELOWbSMALL~~~~~bCAPITAL LETTER K WITH LINE~bSMALL~~~~~",
   "bCAPITAL LETTER L WITH DOT~bSMALL~~~~~bCAPITAL LETTER L WITH DOT BELOW AND MACRONbSMALL~~~~~~~",
   "bCAPITAL LETTER L WITH LINE BELOWbSMALL~~~~~bCAPITAL LETTER L WITH CIRCUMFLEX~bSMALL~~~~~",
   "bCAPITAL LETTER M WITH ACUTEbSMALL~~~~bCAPITAL LETTER M WITH DOT ABOVEbSMALL~~~~~",
   "bCAPITAL LETTER M WITH DOT BELOWbSMALL~~~~~bCAPITAL LETTER N WITH DOT ABOVEbSMALL~~~~~",
   "bCAPITAL LETTER N WITH DOT BELOWbSMALL~~~~~bCAPITAL LETTER N WITH LINE~bSMALL~~~~~",
   "bCAPITAL LETTER N WITH CIRCUMFLEX~bSMALL~~~~~bCAPITAL LETTER O WITH TILDE AND ACUTE",
   "bSMALL~~~~~~bCAPITAL LETTER O WITH TILDE AND DIAERESISbSMALL~~~~~~",
   "bCAPITAL LETTER O WITH MACRON AND GRAVEbSMALL~~~~~~bCAPITAL LETTER O WITH MACRON AND ACUTE",
   "bSMALL~~~~~~bCAPITAL LETTER P WITH~bSMALL~~~~bCAPITAL LETTER P WITH DOT ABOVEbSMALL~~~~~",
   "bCAPITAL LETTER R~~~bSMALL~~~~~bCAPITAL LETTER R WITH DOT BELOWbSMALL~~~~~",
   "bCAPITAL LETTER R WITH DOT BELOW AND MACRONbSMALL~~~~~~~bCAPITAL LETTER R WITH LINE BELOW",
   "bSMALL~~~~~bCAPITAL LETTER S WITH DOT ABOVEbSMALL~~~~~bCAPITAL LETTER S WITH DOT BELOW",
   "bSMALL~~~~~bCAPITAL LETTER S WITH ACUTE AND DOT ABOVEbSMALL~~~~~~~",
   "bCAPITAL LETTER S WITH CARON~~~bSMALL~~~~~~~bCAPITAL LETTER S WITH DOT BELOW~~~bSMALL~~~~~~~~",
   "bCAPITAL LETTER T WITH~~bSMALL~~~~~bCAPITAL LETTER T WITH DOT BELOWbSMALL~~~~~",
   "bCAPITAL LETTER T WITH LINE~bSMALL~~~~~bCAPITAL LETTER T WITH CIRCUMFLEX~bSMALL~~~~~",
   "bCAPITAL LETTER U WITH DIAERESIS~bSMALL~~~~~bCAPITAL LETTER U WITH TILDE~bSMALL~~~~~",
   "bCAPITAL LETTER U WITH CIRCUMFLEX~bSMALL~~~~~bCAPITAL LETTER U WITH TILDE AND ACUTE",
   "bSMALL~~~~~~bCAPITAL LETTER U WITH MACRON AND DIAERESISbSMALL~~~~~~",
   "bCAPITAL LETTER V WITH TILDEbSMALL~~~~bCAPITAL LETTER V WITH DOT BELOWbSMALL~~~~~",
   "bCAPITAL LETTER W WITH GRAVEbSMALL~~~~bCAPITAL LETTER W WITH ACUTEbSMALL~~~~",
   "bCAPITAL LETTER W WITH DIAERESISbSMALL~~~~bCAPITAL LETTER W WITH DOT ABOVEbSMALL~~~~~",
   "bCAPITAL LETTER W WITH DOT BELOWbSMALL~~~~~bCAPITAL LETTER X WITH DOT ABOVEbSMALL~~~~~",
   "bCAPITAL LETTER X WITH DIAERESISbSMALL~~~~bCAPITAL LETTER Y WITH DOT ABOVEbSMALL~~~~~",
   "bCAPITAL LETTER Z WITH CIRCUMFLEXbSMALL~~~~bCAPITAL LETTER Z WITH DOT BELOWbSMALL~~~~~",
   "bCAPITAL LETTER Z WITH LINE~bSMALL~~~~~dH~~~dT WITH DIAERESISdW WITH RING ABOVEdY~~~",
   "dA WITH RIGHT HALF RINGdLONG S WITH DOT ABOVEgDIAGONAL STROKEgHIGH~bCAPITAL LETTER SHARP S",
   "bSMALL LETTER DELTAbCAPITAL LETTER A WITH DOT BELOWbSMALL~~~~~",
   "bCAPITAL LETTER A WITH HOOK ABOVEbSMALL~~~~~bCAPITAL LETTER A WITH CIRCUMFLEX AND ACUTE",
   "bSMALL~~~~~~bCAPITAL LETTER A WITH CIRCUMFLEX AND GRAVEbSMALL~~~~~~",
   "bCAPITAL LETTER A WITH CIRCUMFLEX AND HOOK ABOVEbSMALL~~~~~~~",
   "bCAPITAL LETTER A WITH CIRCUMFLEX AND TILDEbSMALL~~~~~~",
   "bCAPITAL LETTER A WITH CIRCUMFLEX AND DOT BELOWbSMALL~~~~~~~",
   "bCAPITAL LETTER A WITH BREVE AND ACUTEbSMALL~~~~~~bCAPITAL LETTER A WITH BREVE AND GRAVE",
   "bSMALL~~~~~~bCAPITAL LETTER A WITH BREVE AND HOOK ABOVEbSMALL~~~~~~~",
   "bCAPITAL LETTER A WITH BREVE AND TILDEbSMALL~~~~~~bCAPITAL LETTER A WITH BREVE AND DOT BELOW",
   "bSMALL~~~~~~~bCAPITAL LETTER E WITH~~bSMALL~~~~~bCAPITAL LETTER E WITH HOOK ABOVEbSMALL~~~~~",
   "bCAPITAL LETTER E WITH TILDEbSMALL~~~~bCAPITAL LETTER E WITH CIRCUMFLEX AND ACUTEbSMALL~~~~~~",
   "bCAPITAL LETTER E WITH CIRCUMFLEX AND GRAVEbSMALL~~~~~~",
   "bCAPITAL LETTER E WITH CIRCUMFLEX AND HOOK ABOVEbSMALL~~~~~~~",
   "bCAPITAL LETTER E WITH CIRCUMFLEX AND TILDEbSMALL~~~~~~",
   "bCAPITAL LETTER E WITH CIRCUMFLEX AND DOT BELOWbSMALL~~~~~~~bCAPITAL LETTER I WITH HOOK ABOVE",
   "bSMALL~~~~~bCAPITAL LETTER I WITH DOT BELOWbSMALL~~~~~bCAPITAL LETTER O~~~bSMALL~~~~~",
   "bCAPITAL LETTER O WITH HOOK ABOVEbSMALL~~~~~bCAPITAL LETTER O WITH CIRCUMFLEX AND ACUTE",
   "bSMALL~~~~~~bCAPITAL LETTER O WITH CIRCUMFLEX AND GRAVEbSMALL~~~~~~",
   "bCAPITAL LETTER O WITH CIRCUMFLEX AND HOOK ABOVEbSMALL~~~~~~~",
   "bCAPITAL LETTER O WITH CIRCUMFLEX AND TILDEbSMALL~~~~~~",
   "bCAPITAL LETTER O WITH CIRCUMFLEX AND DOT BELOWbSMALL~~~~~~~",
   "bCAPITAL LETTER O WITH HORN AND ACUTEbSMALL~~~~~~bCAPITAL LETTER O WITH HORN AND GRAVE",
   "bSMALL~~~~~~bCAPITAL LETTER O WITH HORN AND HOOK ABOVEbSMALL~~~~~~~",
   "bCAPITAL LETTER O WITH HORN AND TILDEbSMALL~~~~~~bCAPITAL LETTER O WITH HORN AND DOT BELOW",
   "bSMALL~~~~~~~bCAPITAL LETTER U WITH~~bSMALL~~~~~bCAPITAL LETTER U WITH HOOK ABOVEbSMALL~~~~~",
   "bCAPITAL LETTER U WITH HORN AND ACUTEbSMALL~~~~~~bCAPITAL LETTER U WITH HORN AND GRAVE",
   "bSMALL~~~~~~bCAPITAL LETTER U WITH HORN AND HOOK ABOVEbSMALL~~~~~~~",
   "bCAPITAL LETTER U WITH HORN AND TILDEbSMALL~~~~~~bCAPITAL LETTER U WITH HORN AND DOT BELOW",
   "bSMALL~~~~~~~bCAPITAL LETTER Y WITH GRAVEbSMALL~~~~bCAPITAL LETTER Y WITH DOT BELOWbSMALL~~~~~",
   "bCAPITAL LETTER Y WITH HOOK ABOVEbSMALL~~~~~bCAPITAL LETTER Y WITH TILDEbSMALL~~~~",
   "bCAPITAL LETTER MIDDLE-WELSH LLbSMALL~~~bCAPITAL LETTER MIDDLE-WELSH VbSMALL~~~",
   "bCAPITAL LETTER Y WITH LOOPbSMALL~~~~aGREEK SMALL LETTER ALPHA WITH PSILIfDASIA",
   "fPSILI AND VARIAfDASIA~~fPSILI AND OXIAfDASIA~~fPSILI AND PERISPOMENIfDASIA~~",
   "bCAPITAL LETTER ALPHA WITH PSILIfDASIAfPSILI AND VARIAfDASIA~~fPSILI AND OXIAfDASIA~~",
   "fPSILI AND PERISPOMENIfDASIA~~bSMALL LETTER EPSILON WITH PSILIfDASIAfPSILI AND VARIAfDASIA~~",
   "fPSILI AND OXIAfDASIA~~@1F18bCAPITAL LETTER EPSILON WITH PSILIfDASIAfPSILI AND VARIAfDASIA~~",
   "fPSILI AND OXIAfDASIA~~@1F20bSMALL LETTER ETA WITH PSILIfDASIAfPSILI AND VARIAfDASIA~~",
   "fPSILI AND OXIAfDASIA~~fPSILI AND PERISPOMENIfDASIA~~bCAPITAL LETTER ETA WITH PSILIfDASIA",
   "fPSILI AND VARIAfDASIA~~fPSILI AND OXIAfDASIA~~fPSILI AND PERISPOMENIfDASIA~~",
   "bSMALL LETTER IOTA WITH PSILIfDASIAfPSILI AND VARIAfDASIA~~fPSILI AND OXIAfDASIA~~",
   "fPSILI AND PERISPOMENIfDASIA~~bCAPITAL LETTER IOTA WITH PSILIfDASIAfPSILI AND VARIAfDASIA~~",
   "fPSILI AND OXIAfDASIA~~fPSILI AND PERISPOMENIfDASIA~~bSMALL LETTER OMICRON WITH PSILIfDASIA",
   "fPSILI AND VARIAfDASIA~~fPSILI AND OXIAfDASIA~~@1F48bCAPITAL LETTER OMICRON WITH PSILIfDASIA",
   "fPSILI AND VARIAfDASIA~~fPSILI AND OXIAfDASIA~~@1F50bSMALL LETTER UPSILON WITH PSILIfDASIA",
   "fPSILI AND VARIAfDASIA~~fPSILI AND OXIAfDASIA~~fPSILI AND PERISPOMENIfDASIA~~@1F59",
   "bCAPITAL LETTER UPSILON WITH DASIA@1F5BgAND VARIA@1F5DhOXIA@1F5FhPERISPOMENI",
   "bSMALL LETTER OMEGA WITH PSILIfDASIAfPSILI AND VARIAfDASIA~~fPSILI AND OXIAfDASIA~~",
   "fPSILI AND PERISPOMENIfDASIA~~bCAPITAL LETTER OMEGA WITH PSILIfDASIAfPSILI AND VARIAfDASIA~~",
   "fPSILI AND OXIAfDASIA~~fPSILI AND PERISPOMENIfDASIA~~bSMALL LETTER ALPHA WITH VARIAfOXIA",
   "dEPSILON WITH VARIAfOXIAdETA WITH VARIAfOXIAdIOTA WITH VARIAfOXIAdOMICRON WITH VARIAfOXIA",
   "dUPSILON WITH VARIAfOXIAdOMEGA WITH VARIAfOXIA@1F80dALPHA WITH PSILI AND YPOGEGRAMMENIfDASIA~~",
   "fPSILI AND VARIA~~fDASIA~~~~fPSILI AND OXIA~~fDASIA~~~~fPSILI AND PERISPOMENI~~fDASIA~~~~",
   "bCAPITAL LETTER ALPHA WITH PSILI AND PROSGEGRAMMENIfDASIA~~fPSILI AND VARIA~~fDASIA~~~~",
   "fPSILI AND OXIA~~fDASIA~~~~fPSILI AND PERISPOMENI~~fDASIA~~~~",
   "bSMALL LETTER ETA WITH PSILI AND YPOGEGRAMMENIfDASIA~~fPSILI AND VARIA~~fDASIA~~~~",
   "fPSILI AND OXIA~~fDASIA~~~~fPSILI AND PERISPOMENI~~fDASIA~~~~",
   "bCAPITAL LETTER ETA WITH PSILI AND PROSGEGRAMMENIfDASIA~~fPSILI AND VARIA~~fDASIA~~~~",
   "fPSILI AND OXIA~~fDASIA~~~~fPSILI AND PERISPOMENI~~fDASIA~~~~",
   "bSMALL LETTER OMEGA WITH PSILI AND YPOGEGRAMMENIfDASIA~~fPSILI AND VARIA~~fDASIA~~~~",
   "fPSILI AND OXIA~~fDASIA~~~~fPSILI AND PERISPOMENI~~fDASIA~~~~",
   "bCAPITAL LETTER OMEGA WITH PSILI AND PROSGEGRAMMENIfDASIA~~fPSILI AND VARIA~~fDASIA~~~~",
   "fPSILI AND OXIA~~fDASIA~~~~fPSILI AND PERISPOMENI~~fDASIA~~~~bSMALL LETTER ALPHA WITH VRACHY",
   "fMACRONfVARIA AND YPOGEGRAMMENIf~fOXIA AND~@1FB6fPERISPOMENIgAND YPOGEGRAMMENI",
   "bCAPITAL LETTER ALPHA WITH VRACHYfMACRONfVARIAfOXIAfPROSGEGRAMMENIbKORONISbPROSGEGRAMMENI",
   "bPSILIbPERISPOMENIbDIALYTIKA AND~bSMALL LETTER ETA WITH VARIA AND YPOGEGRAMMENIf~fOXIA AND~",
   "@1FC6fPERISPOMENIgAND YPOGEGRAMMENIbCAPITAL LETTER EPSILON WITH VARIAfOXIAdETA WITH VARIAfOXIA",
   "fPROSGEGRAMMENIbPSILI AND VARIAdOXIAdPERISPOMENIbSMALL LETTER IOTA WITH VRACHYfMACRON",
   "fDIALYTIKA AND VARIAhOXIA@1FD6fPERISPOMENIfDIALYTIKA AND~bCAPITAL LETTER IOTA WITH VRACHY",
   "fMACRONfVARIAfOXIA@1FDDbDASIA AND VARIAdOXIAdPERISPOMENIbSMALL LETTER UPSILON WITH VRACHY",
   "fMACRONfDIALYTIKA AND VARIAhOXIAdRHO WITH PSILIfDASIAdUPSILON WITH PERISPOMENIfDIALYTIKA AND~",
   "bCAPITAL LETTER UPSILON WITH VRACHYfMACRONfVARIAfOXIAdRHO WITH DASIAbDIALYTIKA AND VARIAdOXIA",
   "bVARIA@1FF2bSMALL LETTER OMEGA WITH VARIA AND YPOGEGRAMMENIf~fOXIA AND~@1FF6fPERISPOMENI",
   "gAND YPOGEGRAMMENIbCAPITAL LETTER OMICRON WITH VARIAfOXIAdOMEGA WITH VARIAfOXIAfPROSGEGRAMMENI",
   "bOXIAbDASIA"]

end ClassSchema.Text.CharacterName
