/-!
# Character names: East Asia

The part of the table of character names from U+2C00 to U+A4FF: the scripts of East Asia, and a
few alphabets.
-/

namespace ClassSchema.Text.CharacterName

/-- The names of the scripts of East Asia, and a few alphabets. -/
def eastAsia : List String :=
  ["@2C00aGLAGOLITIC CAPITAL LETTER AZUdBUKYdVEDEdGLAGOLIdDOBROdYESTUdZHIVETEdDZELOdZEMLJAdIZHE",
   "dINITIAL~dIdDJERVIdKAKOdLJUDIJEdMYSLITEdNASHIdONUdPOKOJIdRITSIdSLOVOdTVRIDOdUKUdFRITUdHERUdOTU",
   "dPEdSHTAdTSIdCHRIVIdSHAdYERUdYERIdYATIdSPIDERY HAdYUdSMALL YUSfWITH TAILdYOdIOTATED SMALL YUS",
   "dBIG~dIOTATED~~dFITAdIZHITSAdSHTAPICdTROKUTASTI AdLATINATE MYSLITEdCAUDATE CHRIVI",
   "bSMALL LETTER AZUdBUKYdVEDEdGLAGOLIdDOBROdYESTUdZHIVETEdDZELOdZEMLJAdIZHEdINITIAL~dIdDJERVI",
   "dKAKOdLJUDIJEdMYSLITEdNASHIdONUdPOKOJIdRITSIdSLOVOdTVRIDOdUKUdFRITUdHERUdOTUdPEdSHTAdTSI",
   "dCHRIVIdSHAdYERUdYERIdYATIdSPIDERY HAdYUdSMALL YUSfWITH TAILdYOdIOTATED SMALL YUSdBIG~",
   "dIOTATED~~dFITAdIZHITSAdSHTAPICdTROKUTASTI AdLATINATE MYSLITEdCAUDATE CHRIVI",
   "aLATIN CAPITAL LETTER L WITH DOUBLE BARbSMALL~~~~~bCAPITAL LETTER L WITH MIDDLE TILDE",
   "dP WITH STROKEdR WITH TAILbSMALL LETTER A WITH STROKEdT WITH DIAGONAL~",
   "bCAPITAL LETTER H WITH DESCENDERbSMALL~~~~bCAPITAL LETTER K~~bSMALL~~~~bCAPITAL LETTER Z~~",
   "bSMALL~~~~bCAPITAL LETTER ALPHAdM WITH HOOKdTURNED AeALPHAbSMALL LETTER V WITH RIGHT HOOK",
   "bCAPITAL LETTER W WITH~bSMALL~~~~dV WITH CURLbCAPITAL LETTER HALF HbSMALL~~~dTAILLESS PHI",
   "dE WITH NOTCHdTURNED R WITH TAILdO WITH LOW RING INSIDEbLETTER SMALL CAPITAL TURNED E",
   "bSUBSCRIPT SMALL LETTER JaMODIFIER LETTER CAPITAL VaLATIN CAPITAL LETTER S WITH SWASH TAIL",
   "dZ~~~aCOPTIC CAPITAL LETTER ALFAbSMALL~~bCAPITAL LETTER VIDAbSMALL~~bCAPITAL LETTER GAMMA",
   "bSMALL~~bCAPITAL LETTER DALDAbSMALL~~bCAPITAL LETTER EIEbSMALL~~bCAPITAL LETTER SOUbSMALL~~",
   "bCAPITAL LETTER ZATAbSMALL~~bCAPITAL LETTER HATEbSMALL~~bCAPITAL LETTER THETHEbSMALL~~",
   "bCAPITAL LETTER IAUDAbSMALL~~bCAPITAL LETTER KAPAbSMALL~~bCAPITAL LETTER LAULAbSMALL~~",
   "bCAPITAL LETTER MIbSMALL~~bCAPITAL LETTER NIbSMALL~~bCAPITAL LETTER KSIbSMALL~~",
   "bCAPITAL LETTER ObSMALL~~bCAPITAL LETTER PIbSMALL~~bCAPITAL LETTER RObSMALL~~",
   "bCAPITAL LETTER SIMAbSMALL~~bCAPITAL LETTER TAUbSMALL~~bCAPITAL LETTER UAbSMALL~~",
   "bCAPITAL LETTER FIbSMALL~~bCAPITAL LETTER KHIbSMALL~~bCAPITAL LETTER PSIbSMALL~~",
   "bCAPITAL LETTER OOUbSMALL~~bCAPITAL LETTER DIALECT-P ALEFbSMALL~~~",
   "bCAPITAL LETTER OLD COPTIC AINbSMALL~~~~bCAPITAL LETTER CRYPTOGRAMMIC EIEbSMALL~~~",
   "bCAPITAL LETTER DIALECT-P KAPAbSMALL~~~bCAPITAL LETTER DIALECT-P NIbSMALL~~~",
   "bCAPITAL LETTER CRYPTOGRAMMIC~bSMALL~~~bCAPITAL LETTER OLD COPTIC OOUbSMALL~~~~",
   "bCAPITAL LETTER SAMPIbSMALL~~bCAPITAL LETTER CROSSED SHEIbSMALL~~~bCAPITAL LETTER OLD COPTIC~",
   "bSMALL~~~~bCAPITAL LETTER OLD COPTIC ESHbSMALL~~~~bCAPITAL LETTER AKHMIMIC KHEIbSMALL~~~",
   "bCAPITAL LETTER DIALECT-P HORIbSMALL~~~bCAPITAL LETTER OLD COPTIC~bSMALL~~~~",
   "bCAPITAL LETTER OLD COPTIC HAbSMALL~~~~bCAPITAL LETTER L-SHAPED~bSMALL~~~",
   "bCAPITAL LETTER OLD COPTIC HEIbSMALL~~~~bCAPITAL LETTER OLD COPTIC HATbSMALL~~~~",
   "bCAPITAL LETTER OLD COPTIC GANGIAbSMALL~~~~bCAPITAL LETTER OLD COPTIC DJAbSMALL~~~~",
   "bCAPITAL LETTER OLD COPTIC SHIMAbSMALL~~~~bCAPITAL LETTER OLD NUBIAN~bSMALL~~~~",
   "bCAPITAL LETTER OLD NUBIAN NGIbSMALL~~~~bCAPITAL LETTER OLD NUBIAN NYIbSMALL~~~~",
   "bCAPITAL LETTER OLD NUBIAN WAUbSMALL~~~~bSYMBOL KAIcMI ROcPI~cSTAUROScTAU ROcKHI~cSHIMA SIMA",
   "bCAPITAL LETTER CRYPTOGRAMMIC SHEIbSMALL~~~bCAPITAL LETTER CRYPTOGRAMMIC GANGIAbSMALL~~~",
   "bCOMBINING NI ABOVEcSPIRITUS ASPERdLENISbCAPITAL LETTER BOHAIRIC KHEIbSMALL~~~@2CF9",
   "bOLD NUBIAN FULL STOPdDIRECT QUESTION MARKdINDIRECT~~dVERSE DIVIDERbFRACTION ONE HALF",
   "bFULL STOPbMORPHOLOGICAL DIVIDERaGEORGIAN SMALL LETTER ANdBANdGANdDONdENdVINdZENdTANdINdKAN",
   "dLASdMANdNARdONdPARdZHARdRAEdSANdTARdUNdPHARdKHARdGHANdQARdSHINdCHINdCANdJILdCILdCHARdXANdJHAN",
   "dHAEdHEdHIEdWEdHARdHOE@2D27dYN@2D2DdAEN@2D30aTIFINAGH LETTER YAcYABcYABHcYAGcYAGHH",
   "cBERBER ACADEMY YAJc~cYADcYADHcYADDcYADDHcYEYcYAFcYAKcTUAREG~cYAKHHcYAHcBERBER ACADEMY~",
   "cTUAREG~cYAHHcYAAcYAKHcTUAREG~cYAQcTUAREG~cYIcYAZHcAHAGGAR~cTUAREG~cYALcYAMcYANcTUAREG YAGN",
   "dYANGcYAPcYUcYARcYARRcYAGHcTUAREG~cAYER~cYAScYASScYASHcYATcYATHcYACHcYATTcYAVcYAWcYAYcYAZ",
   "cTAWELLEMET~cYAZZcYEcYO@2D6FbMODIFIER LETTER LABIALIZATION MARKbSEPARATOR~@2D7F",
   "bCONSONANT JOINERaETHIOPIC SYLLABLE LOAcMOAcROAcSOAcSHOAcBOAcTOAcCOAcNOAcNYOAcGLOTTAL OAcZOA",
   "cDOAcDDOAcJOAcTHOAcCHOAcPHOAcPOAcGGWAcGGWIcGGWEEcGGWE@2DA0cSSAcSSUcSSIcSSAAcSSEEcSSEcSSO@2DA8",
   "cCCAcCCUcCCIcCCAAcCCEEcCCEcCCO@2DB0cZZAcZZUcZZIcZZAAcZZEEcZZEcZZO@2DB8cCCHAcCCHUcCCHIcCCHAA",
   "cCCHEEcCCHEcCCHO@2DC0cQYAcQYUcQYIcQYAAcQYEEcQYEcQYO@2DC8cKYAcKYUcKYIcKYAAcKYEEcKYEcKYO@2DD0",
   "cXYAcXYUcXYIcXYAAcXYEEcXYEcXYO@2DD8cGYAcGYUcGYIcGYAAcGYEEcGYEcGYO@2DE0",
   "aCOMBINING CYRILLIC LETTER BEdVEdGHEdDEdZHEdZEdKAdELdEMdENdOdPEdERdESdTEdHAdTSEdCHEdSHAdSHCHA",
   "dFITAdES-TEdAdIEdDJERVdMONOGRAPH UKdYATdYUdIOTIFIED AdLITTLE YUSdBIG~dIOTIFIED~~",
   "aRIGHT ANGLE SUBSTITUTION MARKERcDOTTED~~aLEFT SUBSTITUTION BRACKETaRIGHT~~aLEFT DOTTED~~",
   "aRIGHT~~~aRAISED INTERPOLATION MARKERbDOTTED~~aDOTTED TRANSPOSITION~",
   "aLEFT TRANSPOSITION BRACKETaRIGHT~~aRAISED SQUAREaLEFT RAISED OMISSION BRACKETaRIGHT~~~",
   "aEDITORIAL CORONISaPARAGRAPHOSaFORKED~aREVERSED~~aHYPODIASTOLEaDOTTED OBELOSaDOWNWARDS ANCORA",
   "aUPWARDS~aDOTTED RIGHT-POINTING ANGLEaDOUBLE OBLIQUE HYPHENaINVERTED INTERROBANGaPALM BRANCH",
   "aHYPHEN WITH DIAERESISaTILDE WITH RING ABOVEaLEFT LOW PARAPHRASE BRACKETaRIGHT~~~",
   "aTILDE WITH DOT ABOVEdBELOWaLEFT VERTICAL BAR WITH QUILLaRIGHT~~~~aTOP LEFT HALF BRACKET",
   "bRIGHT~~aBOTTOM LEFT~~bRIGHT~~aLEFT SIDEWAYS U~aRIGHT~~~aLEFT DOUBLE PARENTHESISaRIGHT~~",
   "aTWO DOTS OVER ONE DOT PUNCTUATIONaONE DOT OVER TWO DOTS~aSQUARED FOUR DOT~aFIVE DOT MARK",
   "aREVERSED QUESTION~aVERTICAL TILDEaRING POINTaWORD SEPARATOR MIDDLE DOTaTURNED COMMA",
   "aRAISED DOTbCOMMAaTURNED SEMICOLONaDAGGER WITH LEFT GUARDcRIGHT~aTURNED DAGGER",
   "aTOP HALF SECTION SIGNaTWO-EM DASHaTHREE-EM~aSTENOGRAPHIC FULL STOPaVERTICAL SIX DOTS",
   "aWIGGLY VERTICAL LINEaCAPITULUMaDOUBLE HYPHENaREVERSED COMMA",
   "aDOUBLE LOW-REVERSED-9 QUOTATION MARKaDASH WITH LEFT UPTURNaDOUBLE SUSPENSION MARK",
   "aINVERTED LOW KAVYKAdWITH KAVYKA ABOVEaLOW KAVYKAcWITH DOTaDOUBLE STACKED COMMAaDOTTED SOLIDUS",
   "aTRIPLE DAGGERaMEDIEVAL COMMAaPARAGRAPHUS MARKaPUNCTUS ELEVATUS~aCORNISH VERSE DIVIDER",
   "aCROSS PATTY WITH RIGHT CROSSBARdLEFT~aTIRONIAN SIGN CAPITAL ETaMEDIEVAL EXCLAMATION MARK",
   "bQUESTION~aLEFT SQUARE BRACKET WITH STROKEaRIGHT~~~~aLEFT SQUARE BRACKET WITH DOUBLE~",
   "aRIGHT~~~~~aTOP HALF LEFT PARENTHESIScRIGHT~aBOTTOM HALF LEFT~cRIGHT~aOBLIQUE HYPHEN@2E80",
   "aCJK RADICAL REPEATcCLIFFcSECOND ONEdTWOdTHREEcPERSONcBOXcTABLEcKNIFE ONEdTWOcDIVINATIONcSEAL",
   "cSMALL ONEdTWOcLAME ONEdTWOdTHREEdFOURcSNAKEcTHREADcSNOUT ONEdTWOcHEART ONEdTWOcHANDcRAP@2E9B",
   "cCHOKEcSUNcMOONcDEATHcMOTHERcCIVILIANcWATER ONEdTWOcFIREcPAW ONEdTWO",
   "cSIMPLIFIED HALF TREE TRUNKcCOWcDOGcJADEcBOLT OF CLOTHcEYEcSPIRIT ONEdTWOcBAMBOOcSILK",
   "cC-SIMPLIFIED~cNET ONEdTWOdTHREEdFOURcMESHcSHEEPcRAMcEWEcOLDcBRUSH ONEdTWOcMEATcMORTAR",
   "cGRASS ONEdTWOdTHREEcTIGERcCLOTHEScWEST ONEdTWOcC-SIMPLIFIED SEEcSIMPLIFIED HORNc~",
   "cC-SIMPLIFIED SPEECHdSHELLcFOOTcC-SIMPLIFIED CARTcSIMPLIFIED WALKcWALK ONEdTWOcCITY",
   "cC-SIMPLIFIED GOLDcLONG ONEdTWOcC-SIMPLIFIED LONGdGATEcMOUND ONEdTWOcRAINcBLUE",
   "cC-SIMPLIFIED TANNED LEATHERdLEAFdWINDdFLYcEAT ONEdTWOdTHREEcC-SIMPLIFIED EATcHEAD",
   "cC-SIMPLIFIED HORSEcBONEcGHOSTcC-SIMPLIFIED FISHdBIRDdSALTcSIMPLIFIED WHEATdYELLOW",
   "cC-SIMPLIFIED FROGcJ-SIMPLIFIED EVENcC-SIMPLIFIED~cJ-SIMPLIFIED TOOTHcC-SIMPLIFIED~",
   "cJ-SIMPLIFIED DRAGONcC-SIMPLIFIED~cTURTLEcJ-SIMPLIFIED~cC-SIMPLIFIED~@2F00aKANGXI RADICAL ONE",
   "cLINEcDOTcSLASHcSECONDcHOOKcTWOcLIDcMANcLEGScENTERcEIGHTcDOWN BOXcCOVERcICEcTABLEcOPEN BOX",
   "cKNIFEcPOWERcWRAPcSPOONcRIGHT OPEN BOXcHIDING ENCLOSUREcTENcDIVINATIONcSEALcCLIFFcPRIVATE",
   "cAGAINcMOUTHcENCLOSUREcEARTHcSCHOLARcGOdSLOWLYcEVENINGcBIGcWOMANcCHILDcROOFcINCHcSMALLcLAME",
   "cCORPSEcSPROUTcMOUNTAINcRIVERcWORKcONESELFcTURBANcDRYcSHORT THREADcDOTTED CLIFFcLONG STRIDE",
   "cTWO HANDScSHOOTcBOWcSNOUTcBRISTLEcSTEPcHEARTcHALBERDcDOORcHANDcBRANCHcRAPcSCRIPTcDIPPERcAXE",
   "cSQUAREcNOTcSUNcSAYcMOONcTREEcLACKcSTOPcDEATHcWEAPONcDO NOTcCOMPAREcFURcCLANcSTEAMcWATERcFIRE",
   "cCLAWcFATHERcDOUBLE XcHALF TREE TRUNKcSLICEcFANGcCOWcDOGcPROFOUNDcJADEcMELONcTILEcSWEETcLIFE",
   "cUSEcFIELDcBOLT OF CLOTHcSICKNESScDOTTED TENTcWHITEcSKINcDISHcEYEcSPEARcARROWcSTONEcSPIRIT",
   "cTRACKcGRAINcCAVEcSTANDcBAMBOOcRICEcSILKcJARcNETcSHEEPcFEATHERcOLDcANDcPLOWcEARcBRUSHcMEAT",
   "cMINISTERcSELFcARRIVEcMORTARcTONGUEcOPPOSEcBOATcSTOPPINGcCOLORcGRASScTIGERcINSECTcBLOOD",
   "cWALK ENCLOSUREcCLOTHEScWESTcSEEcHORNcSPEECHcVALLEYcBEANcPIGcBADGERcSHELLcREDcRUNcFOOTcBODY",
   "cCARTcBITTERcMORNINGcWALKcCITYcWINEcDISTINGUISHcVILLAGEcGOLDcLONGcGATEcMOUNDcSLAVE",
   "cSHORT TAILED BIRDcRAINcBLUEcWRONGcFACEcLEATHERcTANNED~cLEEKcSOUNDcLEAFcWINDcFLYcEATcHEAD",
   "cFRAGRANTcHORSEcBONEcTALLcHAIRcFIGHTcSACRIFICIAL WINEcCAULDRONcGHOSTcFISHcBIRDcSALTcDEERcWHEAT",
   "cHEMPcYELLOWcMILLETcBLACKcEMBROIDERYcFROGcTRIPODcDRUMcRATcNOSEcEVENcTOOTHcDRAGONcTURTLEcFLUTE",
   "@2FF0aIDEOGRAPHIC DESCRIPTION CHARACTER LEFT TO RIGHTdABOVE TO BELOWdLEFT TO MIDDLE AND RIGHT",
   "dABOVE TO MIDDLE AND BELOWdFULL SURROUNDdSURROUND FROM ABOVEfBELOWfLEFTfUPPER~gRIGHT",
   "fLOWER LEFTdOVERLAID@3000bSPACEbCOMMAbFULL STOPaDITTO MARKaJAPANESE INDUSTRIAL STANDARD SYMBOL",
   "aIDEOGRAPHIC ITERATION MARKbCLOSING~bNUMBER ZEROaLEFT ANGLE BRACKETaRIGHT~~aLEFT DOUBLE~~",
   "aRIGHT~~~aLEFT CORNER~aRIGHT~~aLEFT WHITE~~aRIGHT~~~aLEFT BLACK LENTICULAR~aRIGHT~~~",
   "aPOSTAL MARKaGETA~aLEFT TORTOISE SHELL BRACKETaRIGHT~~~aLEFT WHITE LENTICULAR~aRIGHT~~~",
   "aLEFT WHITE TORTOISE SHELL~aRIGHT~~~~aLEFT WHITE SQUARE~aRIGHT~~~aWAVE DASH",
   "aREVERSED DOUBLE PRIME QUOTATION MARKa~~~~aLOW~~~~aPOSTAL MARK FACEaHANGZHOU NUMERAL ONEcTWO",
   "cTHREEcFOURcFIVEcSIXcSEVENcEIGHTcNINEaIDEOGRAPHIC LEVEL TONE MARKbRISING~~bDEPARTING~~",
   "bENTERING~~aHANGUL SINGLE DOT~~bDOUBLE~~~aWAVY DASHaVERTICAL KANA REPEAT MARK",
   "dWITH VOICED SOUND~dMARK UPPER HALFdWITH VOICED SOUND~~~dMARK LOWER~aCIRCLED POSTAL MARK",
   "aIDEOGRAPHIC TELEGRAPH LINE FEED SEPARATOR SYMBOLaHANGZHOU NUMERAL TENcTWENTYcTHIRTY",
   "aVERTICAL IDEOGRAPHIC ITERATION MARKaMASU~aPART ALTERNATION~aIDEOGRAPHIC VARIATION INDICATOR",
   "bHALF FILL SPACE@3041aHIRAGANA LETTER SMALL AcAcSMALL IcIcSMALL UcUcSMALL EcEcSMALL OcOcKAcGA",
   "cKIcGIcKUcGUcKEcGEcKOcGOcSAcZAcSIcZIcSUcZUcSEcZEcSOcZOcTAcDAcTIcDIcSMALL TUc~cDUcTEcDEcTOcDO",
   "cNAcNIcNUcNEcNOcHAcBAcPAcHIcBIcPIcHUcBUcPUcHEcBEcPEcHOcBOcPOcMAcMIcMUcMEcMOcSMALL YAc~",
   "cSMALL YUc~cSMALL YOc~cRAcRIcRUcREcROcSMALL WAc~cWIcWEcWOcNcVUcSMALL KAdKE@3099",
   "aCOMBINING KATAKANA-HIRAGANA VOICED SOUND MARKcSEMI-VOICED~~aKATAKANA-HIRAGANA VOICED~~",
   "bSEMI-VOICED~~aHIRAGANA ITERATION~bVOICED~~bDIGRAPH YORIaKATAKANA-HIRAGANA DOUBLE HYPHEN",
   "aKATAKANA LETTER SMALL AcAcSMALL IcIcSMALL UcUcSMALL EcEcSMALL OcOcKAcGAcKIcGIcKUcGUcKEcGEcKO",
   "cGOcSAcZAcSIcZIcSUcZUcSEcZEcSOcZOcTAcDAcTIcDIcSMALL TUc~cDUcTEcDEcTOcDOcNAcNIcNUcNEcNOcHAcBA",
   "cPAcHIcBIcPIcHUcBUcPUcHEcBEcPEcHOcBOcPOcMAcMIcMUcMEcMOcSMALL YAc~cSMALL YUc~cSMALL YOc~cRAcRI",
   "cRUcREcROcSMALL WAc~cWIcWEcWOcNcVUcSMALL KAdKEcVAcVIcVEcVObMIDDLE DOT",
   "aKATAKANA-HIRAGANA PROLONGED SOUND MARKaKATAKANA ITERATION~bVOICED~~bDIGRAPH KOTO@3105",
   "aBOPOMOFO LETTER BcPcMcFcDcTcNcLcGcKcHcJcQcXcZHcCHcSHcRcZcCcScAcOcEcEHcAIcEIcAUcOUcANcENcANG",
   "cENGcERcIcUcIUcVcNGcGNcIHcO WITH DOT ABOVEcNN@3131aHANGUL LETTER KIYEOKcSSANGKIYEOK",
   "cKIYEOK-SIOScNIEUNcNIEUN-CIEUCcNIEUN-HIEUHcTIKEUTcSSANGTIKEUTcRIEULcRIEUL-KIYEOKcRIEUL-MIEUM",
   "cRIEUL-PIEUPcRIEUL-SIOScRIEUL-THIEUTHcRIEUL-PHIEUPHcRIEUL-HIEUHcMIEUMcPIEUPcSSANGPIEUP",
   "cPIEUP-SIOScSIOScSSANGSIOScIEUNGcCIEUCcSSANGCIEUCcCHIEUCHcKHIEUKHcTHIEUTHcPHIEUPHcHIEUHcAcAE",
   "cYAcYAEcEOcEcYEOcYEcOcWAcWAEcOEcYOcUcWEOcWEcWIcYUcEUcYIcIbFILLERbLETTER SSANGNIEUN",
   "cNIEUN-TIKEUTcNIEUN-SIOScNIEUN-PANSIOScRIEUL-KIYEOK-SIOScRIEUL-TIKEUTcRIEUL-PIEUP-SIOS",
   "cRIEUL-PANSIOScRIEUL-YEORINHIEUHcMIEUM-PIEUPcMIEUM-SIOScMIEUM-PANSIOScKAPYEOUNMIEUM",
   "cPIEUP-KIYEOKcPIEUP-TIKEUTcPIEUP-SIOS-KIYEOKcPIEUP-SIOS-TIKEUTcPIEUP-CIEUCcPIEUP-THIEUTH",
   "cKAPYEOUNPIEUPcKAPYEOUNSSANGPIEUPcSIOS-KIYEOKcSIOS-NIEUNcSIOS-TIKEUTcSIOS-PIEUPcSIOS-CIEUC",
   "cPANSIOScSSANGIEUNGcYESIEUNGcYESIEUNG-SIOScYESIEUNG-PANSIOScKAPYEOUNPHIEUPHcSSANGHIEUH",
   "cYEORINHIEUHcYO-YAcYO-YAEcYO-IcYU-YEOcYU-YEcYU-IcARAEAcARAEAE@3190",
   "aIDEOGRAPHIC ANNOTATION LINKING MARKcREVERSE~cONE~cTWO~cTHREE~cFOUR~cTOP~cMIDDLE~cBOTTOM~",
   "cFIRST~cSECOND~cTHIRD~cFOURTH~cHEAVEN~cEARTH~cMAN~aBOPOMOFO LETTER BUcZIcJIcGUcEEcENNcOOcONN",
   "cIRcANNcINNcUNNcIMcNGGcAINNcAUNNcAMcOMcONGcINNNbFINAL LETTER PdTdKdHbLETTER GHcLHcZY",
   "bFINAL LETTER GbLETTER GWcKWcOEcAHaCJK STROKE TcWGcXGcBXGcSWcHZZcHZGcHPcHZWGcSZWGcHZTcHZZP",
   "cHPWGcHZWcHZZZcNcHcScPcSPcDcHZcHGcSZcSWZcSTcSGcPDcPZcTNcSZZcSWGcHXWGcHZZZGcPGcQ@31F0",
   "aKATAKANA LETTER SMALL KUdSIdSUdTOdNUdHAdHIdHUdHEdHOdMUdRAdRIdRUdREdRO",
   "aPARENTHESIZED HANGUL KIYEOKcNIEUNcTIKEUTcRIEULcMIEUMcPIEUPcSIOScIEUNGcCIEUCcCHIEUCHcKHIEUKH",
   "cTHIEUTHcPHIEUPHcHIEUHcKIYEOK AcNIEUN~cTIKEUT~cRIEUL~cMIEUM~cPIEUP~cSIOS~cIEUNG~cCIEUC~",
   "cCHIEUCH~cKHIEUKH~cTHIEUTH~cPHIEUPH~cHIEUH~cCIEUC UbKOREAN CHARACTER OJEONdO HU@3220",
   "bIDEOGRAPH ONEcTWOcTHREEcFOURcFIVEcSIXcSEVENcEIGHTcNINEcTENcMOONcFIREcWATERcWOODcMETALcEARTH",
   "cSUNcSTOCKcHAVEcSOCIETYcNAMEcSPECIALcFINANCIALcCONGRATULATIONcLABORcREPRESENTcCALLcSTUDY",
   "cSUPERVISEcENTERPRISEcRESOURCEcALLIANCEcFESTIVALcRESTcSELFcREACHaCIRCLED IDEOGRAPH QUESTION",
   "cKINDERGARTENcSCHOOLcKOTObNUMBER TEN ON BLACK SQUAREcTWENTY~~~cTHIRTY~~~cFORTY~~~cFIFTY~~~",
   "cSIXTY~~~cSEVENTY~~~cEIGHTY~~~aPARTNERSHIP SIGNaCIRCLED NUMBER TWENTY ONEdTWOdTHREEdFOURdFIVE",
   "dSIXdSEVENdEIGHTdNINEcTHIRTYdONEdTWOdTHREEdFOURdFIVEbHANGUL KIYEOKcNIEUNcTIKEUTcRIEULcMIEUM",
   "cPIEUPcSIOScIEUNGcCIEUCcCHIEUCHcKHIEUKHcTHIEUTHcPHIEUPHcHIEUHcKIYEOK AcNIEUN~cTIKEUT~cRIEUL~",
   "cMIEUM~cPIEUP~cSIOS~cIEUNG~cCIEUC~cCHIEUCH~cKHIEUKH~cTHIEUTH~cPHIEUPH~cHIEUH~",
   "bKOREAN CHARACTER CHAMKOdJUEUIbHANGUL IEUNG UaKOREAN STANDARD SYMBOLaCIRCLED IDEOGRAPH ONEcTWO",
   "cTHREEcFOURcFIVEcSIXcSEVENcEIGHTcNINEcTENcMOONcFIREcWATERcWOODcMETALcEARTHcSUNcSTOCKcHAVE",
   "cSOCIETYcNAMEcSPECIALcFINANCIALcCONGRATULATIONcLABORcSECRETcMALEcFEMALEcSUITABLEcEXCELLENT",
   "cPRINTcATTENTIONcITEMcRESTcCOPYcCORRECTcHIGHcCENTREcLOWcLEFTcRIGHTcMEDICINEcRELIGIONcSTUDY",
   "cSUPERVISEcENTERPRISEcRESOURCEcALLIANCEcNIGHTbNUMBER THIRTY SIXdSEVENdEIGHTdNINEcFORTYdONEdTWO",
   "dTHREEdFOURdFIVEdSIXdSEVENdEIGHTdNINEcFIFTYaIDEOGRAPHIC TELEGRAPH SYMBOL FOR JANUARYeFEBRUARY",
   "eMARCHeAPRILeMAYeJUNEeJULYeAUGUSTeSEPTEMBEReOCTOBEReNOVEMBEReDECEMBERaSQUARE HGbERGbEV",
   "aLIMITED LIABILITY SIGNaCIRCLED KATAKANA AcIcUcEcOcKAcKIcKUcKEcKOcSAcSIcSUcSEcSOcTAcTIcTUcTE",
   "cTOcNAcNIcNUcNEcNOcHAcHIcHUcHEcHOcMAcMIcMUcMEcMOcYAcYUcYOcRAcRIcRUcREcROcWAcWIcWEcWO",
   "aSQUARE ERA NAME REIWAbAPAATObARUHUAbANPEAbAARUbININGUbINTIbUONbESUKUUDObEEKAAbONSUbOOMUbKAIRI",
   "bKARATTObKARORIIbGARONbGANMAbGIGAbGINIIbKYURIIbGIRUDAAbKIRObKIROGURAMUbKIROMEETORUbKIROWATTO",
   "bGURAMUbGURAMUTONbKURUZEIRObKUROONEbKEESUbKORUNAbKOOPObSAIKURUbSANTIIMUbSIRINGUbSENTIbSENTO",
   "bDAASUbDESIbDORUbTONbNANObNOTTObHAITUbPAASENTObPAATUbBAARERUbPIASUTORUbPIKURUbPIKObBIRU",
   "bHUARADDObHUIITObBUSSYERUbHURANbHEKUTAARUbPESObPENIHIbHERUTUbPENSUbPEEZIbBEETAbPOINTObBORUTO",
   "bHONbPONDObHOORUbHOONbMAIKURObMAIRUbMAHHAbMARUKUbMANSYONbMIKURONbMIRIbMIRIBAARUbMEGAbMEGATON",
   "bMEETORUbYAADObYAARUbYUANbRITTORUbRIRAbRUPIIbRUUBURUbREMUbRENTOGENbWATTO",
   "aIDEOGRAPHIC TELEGRAPH SYMBOL FOR HOUR ZEROfONEfTWOfTHREEfFOURfFIVEfSIXfSEVENfEIGHTfNINEfTEN",
   "fELEVENfTWELVEfTHIRTEENfFOURTEENfFIFTEENfSIXTEENfSEVENTEENfEIGHTEENfNINETEENfTWENTYfTWENTY-ONE",
   "fTWENTY-TWOfTWENTY-THREEfTWENTY-FOURaSQUARE HPAbDAbAUbBARbOVbPCbDMcSQUAREDcCUBEDbIU",
   "bERA NAME HEISEIdSYOUWAdTAISYOUdMEIZIbCORPORATIONbPA AMPSbNAbMU AbMAbKAbKBbMBbGBbCALbKCALbPF",
   "bNFbMU FcGbMGbKGbHZbKHZbMHZbGHZbTHZbMU LbMLbDLbKLbFMbNMbMU MbMMbCMbKMbMM SQUAREDbCM~bM~bKM~",
   "bMM CUBEDbCM~bM~bKM~bM OVER SeSQUAREDbPAbKPAbMPAbGPAbRADcOVER SeSQUAREDbPSbNSbMU SbMSbPVbNV",
   "bMU VbMVbKVbMV MEGAbPWbNWbMU WbMWbKWbMW MEGAbK OHMbM~bAMbBQbCCbCDbC OVER KGbCObDBbGYbHAbHPbIN",
   "bKKbKM CAPITALbKTbLMbLNbLOGbLXbMB SMALLbMILbMOLbPHbPMbPPMbPRbSRbSVbWBbV OVER MbA~~",
   "aIDEOGRAPHIC TELEGRAPH SYMBOL FOR DAY ONEfTWOfTHREEfFOURfFIVEfSIXfSEVENfEIGHTfNINEfTENfELEVEN",
   "fTWELVEfTHIRTEENfFOURTEENfFIFTEENfSIXTEENfSEVENTEENfEIGHTEENfNINETEENfTWENTYfTWENTY-ONE",
   "fTWENTY-TWOfTWENTY-THREEfTWENTY-FOURfTWENTY-FIVEfTWENTY-SIXfTWENTY-SEVENfTWENTY-EIGHT",
   "fTWENTY-NINEfTHIRTYfTHIRTY-ONEaSQUARE GAL@4DC0aHEXAGRAM FOR THE CREATIVE HEAVEN",
   "dRECEPTIVE EARTHcDIFFICULTY AT THE BEGINNINGcYOUTHFUL FOLLYcWAITINGcCONFLICTcTHE ARMY",
   "cHOLDING TOGETHERcSMALL TAMINGcTREADINGcPEACEcSTANDSTILLcFELLOWSHIPcGREAT POSSESSIONcMODESTY",
   "cENTHUSIASMcFOLLOWINGcWORK ON THE DECAYEDcAPPROACHcCONTEMPLATIONcBITING THROUGHcGRACE",
   "cSPLITTING APARTcRETURNcINNOCENCEcGREAT TAMINGcMOUTH CORNERScGREAT PREPONDERANCE",
   "cTHE ABYSMAL WATERdCLINGING FIREcINFLUENCEcDURATIONcRETREATcGREAT POWERcPROGRESS",
   "cDARKENING OF THE LIGHTcTHE FAMILYcOPPOSITIONcOBSTRUCTIONcDELIVERANCEcDECREASEcINCREASE",
   "cBREAKTHROUGHcCOMING TO MEETcGATHERING TOGETHERcPUSHING UPWARDcOPPRESSIONcTHE WELLcREVOLUTION",
   "cTHE CAULDRONdAROUSING THUNDERdKEEPING STILL MOUNTAINcDEVELOPMENTcTHE MARRYING MAIDEN",
   "cABUNDANCEcTHE WANDERERdGENTLE WINDdJOYOUS LAKEcDISPERSIONcLIMITATIONcINNER TRUTH",
   "cSMALL PREPONDERANCEcAFTER COMPLETIONcBEFORE~@A000aYI SYLLABLE ITcIXcIcIPcIETcIEXcIEcIEPcATcAX",
   "cAcAPcUOXcUOcUOPcOTcOXcOcOPcEXcEcWUcBITcBIXcBIcBIPcBIETcBIEXcBIEcBIEPcBATcBAXcBAcBAPcBUOXcBUO",
   "cBUOPcBOTcBOXcBOcBOPcBEXcBEcBEPcBUTcBUXcBUcBUPcBURXcBURcBYTcBYXcBYcBYPcBYRXcBYRcPITcPIXcPIcPIP",
   "cPIEXcPIEcPIEPcPATcPAXcPAcPAPcPUOXcPUOcPUOPcPOTcPOXcPOcPOPcPUTcPUXcPUcPUPcPURXcPURcPYTcPYXcPY",
   "cPYPcPYRXcPYRcBBITcBBIXcBBIcBBIPcBBIETcBBIEXcBBIEcBBIEPcBBATcBBAXcBBAcBBAPcBBUOXcBBUOcBBUOP",
   "cBBOTcBBOXcBBOcBBOPcBBEXcBBEcBBEPcBBUTcBBUXcBBUcBBUPcBBURXcBBURcBBYTcBBYXcBBYcBBYPcNBITcNBIX",
   "cNBIcNBIPcNBIEXcNBIEcNBIEPcNBATcNBAXcNBAcNBAPcNBOTcNBOXcNBOcNBOPcNBUTcNBUXcNBUcNBUPcNBURXcNBUR",
   "cNBYTcNBYXcNBYcNBYPcNBYRXcNBYRcHMITcHMIXcHMIcHMIPcHMIEXcHMIEcHMIEPcHMATcHMAXcHMAcHMAPcHMUOX",
   "cHMUOcHMUOPcHMOTcHMOXcHMOcHMOPcHMUTcHMUXcHMUcHMUPcHMURXcHMURcHMYXcHMYcHMYPcHMYRXcHMYRcMITcMIX",
   "cMIcMIPcMIEXcMIEcMIEPcMATcMAXcMAcMAPcMUOTcMUOXcMUOcMUOPcMOTcMOXcMOcMOPcMEXcMEcMUTcMUXcMUcMUP",
   "cMURXcMURcMYTcMYXcMYcMYPcFITcFIXcFIcFIPcFATcFAXcFAcFAPcFOXcFOcFOPcFUTcFUXcFUcFUPcFURXcFURcFYT",
   "cFYXcFYcFYPcVITcVIXcVIcVIPcVIETcVIEXcVIEcVIEPcVATcVAXcVAcVAPcVOTcVOXcVOcVOPcVEXcVEPcVUTcVUXcVU",
   "cVUPcVURXcVURcVYTcVYXcVYcVYPcVYRXcVYRcDITcDIXcDIcDIPcDIEXcDIEcDIEPcDATcDAXcDAcDAPcDUOXcDUOcDOT",
   "cDOXcDOcDOPcDEXcDEcDEPcDUTcDUXcDUcDUPcDURXcDURcTITcTIXcTIcTIPcTIEXcTIEcTIEPcTATcTAXcTAcTAP",
   "cTUOTcTUOXcTUOcTUOPcTOTcTOXcTOcTOPcTEXcTEcTEPcTUTcTUXcTUcTUPcTURXcTURcDDITcDDIXcDDIcDDIPcDDIEX",
   "cDDIEcDDIEPcDDATcDDAXcDDAcDDAPcDDUOXcDDUOcDDUOPcDDOTcDDOXcDDOcDDOPcDDEXcDDEcDDEPcDDUTcDDUXcDDU",
   "cDDUPcDDURXcDDURcNDITcNDIXcNDIcNDIPcNDIEXcNDIEcNDATcNDAXcNDAcNDAPcNDOTcNDOXcNDOcNDOPcNDEXcNDE",
   "cNDEPcNDUTcNDUXcNDUcNDUPcNDURXcNDURcHNITcHNIXcHNIcHNIPcHNIETcHNIEXcHNIEcHNIEPcHNATcHNAXcHNA",
   "cHNAPcHNUOXcHNUOcHNOTcHNOXcHNOPcHNEXcHNEcHNEPcHNUTcNITcNIXcNIcNIPcNIEXcNIEcNIEPcNAXcNAcNAP",
   "cNUOXcNUOcNUOPcNOTcNOXcNOcNOPcNEXcNEcNEPcNUTcNUXcNUcNUPcNURXcNURcHLITcHLIXcHLIcHLIPcHLIEXcHLIE",
   "cHLIEPcHLATcHLAXcHLAcHLAPcHLUOXcHLUOcHLUOPcHLOXcHLOcHLOPcHLEXcHLEcHLEPcHLUTcHLUXcHLUcHLUP",
   "cHLURXcHLURcHLYTcHLYXcHLYcHLYPcHLYRXcHLYRcLITcLIXcLIcLIPcLIETcLIEXcLIEcLIEPcLATcLAXcLAcLAP",
   "cLUOTcLUOXcLUOcLUOPcLOTcLOXcLOcLOPcLEXcLEcLEPcLUTcLUXcLUcLUPcLURXcLURcLYTcLYXcLYcLYPcLYRXcLYR",
   "cGITcGIXcGIcGIPcGIETcGIEXcGIEcGIEPcGATcGAXcGAcGAPcGUOTcGUOXcGUOcGUOPcGOTcGOXcGOcGOPcGETcGEXcGE",
   "cGEPcGUTcGUXcGUcGUPcGURXcGURcKITcKIXcKIcKIPcKIEXcKIEcKIEPcKATcKAXcKAcKAPcKUOXcKUOcKUOPcKOTcKOX",
   "cKOcKOPcKETcKEXcKEcKEPcKUTcKUXcKUcKUPcKURXcKURcGGITcGGIXcGGIcGGIEXcGGIEcGGIEPcGGATcGGAXcGGA",
   "cGGAPcGGUOTcGGUOXcGGUOcGGUOPcGGOTcGGOXcGGOcGGOPcGGETcGGEXcGGEcGGEPcGGUTcGGUXcGGUcGGUPcGGURX",
   "cGGURcMGIEXcMGIEcMGATcMGAXcMGAcMGAPcMGUOXcMGUOcMGUOPcMGOTcMGOXcMGOcMGOPcMGEXcMGEcMGEPcMGUT",
   "cMGUXcMGUcMGUPcMGURXcMGURcHXITcHXIXcHXIcHXIPcHXIETcHXIEXcHXIEcHXIEPcHXATcHXAXcHXAcHXAPcHXUOT",
   "cHXUOXcHXUOcHXUOPcHXOTcHXOXcHXOcHXOPcHXEXcHXEcHXEPcNGIEXcNGIEcNGIEPcNGATcNGAXcNGAcNGAPcNGUOT",
   "cNGUOXcNGUOcNGOTcNGOXcNGOcNGOPcNGEXcNGEcNGEPcHITcHIEXcHIEcHATcHAXcHAcHAPcHUOTcHUOXcHUOcHUOP",
   "cHOTcHOXcHOcHOPcHEXcHEcHEPcWATcWAXcWAcWAPcWUOXcWUOcWUOPcWOXcWOcWOPcWEXcWEcWEPcZITcZIXcZIcZIP",
   "cZIEXcZIEcZIEPcZATcZAXcZAcZAPcZUOXcZUOcZUOPcZOTcZOXcZOcZOPcZEXcZEcZEPcZUTcZUXcZUcZUPcZURXcZUR",
   "cZYTcZYXcZYcZYPcZYRXcZYRcCITcCIXcCIcCIPcCIETcCIEXcCIEcCIEPcCATcCAXcCAcCAPcCUOXcCUOcCUOPcCOT",
   "cCOXcCOcCOPcCEXcCEcCEPcCUTcCUXcCUcCUPcCURXcCURcCYTcCYXcCYcCYPcCYRXcCYRcZZITcZZIXcZZIcZZIP",
   "cZZIETcZZIEXcZZIEcZZIEPcZZATcZZAXcZZAcZZAPcZZOXcZZOcZZOPcZZEXcZZEcZZEPcZZUXcZZUcZZUPcZZURX",
   "cZZURcZZYTcZZYXcZZYcZZYPcZZYRXcZZYRcNZITcNZIXcNZIcNZIPcNZIEXcNZIEcNZIEPcNZATcNZAXcNZAcNZAP",
   "cNZUOXcNZUOcNZOXcNZOPcNZEXcNZEcNZUXcNZUcNZUPcNZURXcNZURcNZYTcNZYXcNZYcNZYPcNZYRXcNZYRcSITcSIX",
   "cSIcSIPcSIEXcSIEcSIEPcSATcSAXcSAcSAPcSUOXcSUOcSUOPcSOTcSOXcSOcSOPcSEXcSEcSEPcSUTcSUXcSUcSUP",
   "cSURXcSURcSYTcSYXcSYcSYPcSYRXcSYRcSSITcSSIXcSSIcSSIPcSSIEXcSSIEcSSIEPcSSATcSSAXcSSAcSSAPcSSOT",
   "cSSOXcSSOcSSOPcSSEXcSSEcSSEPcSSUTcSSUXcSSUcSSUPcSSYTcSSYXcSSYcSSYPcSSYRXcSSYRcZHATcZHAXcZHA",
   "cZHAPcZHUOXcZHUOcZHUOPcZHOTcZHOXcZHOcZHOPcZHETcZHEXcZHEcZHEPcZHUTcZHUXcZHUcZHUPcZHURXcZHUR",
   "cZHYTcZHYXcZHYcZHYPcZHYRXcZHYRcCHATcCHAXcCHAcCHAPcCHUOTcCHUOXcCHUOcCHUOPcCHOTcCHOXcCHOcCHOP",
   "cCHETcCHEXcCHEcCHEPcCHUXcCHUcCHUPcCHURXcCHURcCHYTcCHYXcCHYcCHYPcCHYRXcCHYRcRRAXcRRAcRRUOXcRRUO",
   "cRROTcRROXcRROcRROPcRRETcRREXcRREcRREPcRRUTcRRUXcRRUcRRUPcRRURXcRRURcRRYTcRRYXcRRYcRRYPcRRYRX",
   "cRRYRcNRATcNRAXcNRAcNRAPcNROXcNROcNROPcNRETcNREXcNREcNREPcNRUTcNRUXcNRUcNRUPcNRURXcNRURcNRYT",
   "cNRYXcNRYcNRYPcNRYRXcNRYRcSHATcSHAXcSHAcSHAPcSHUOXcSHUOcSHUOPcSHOTcSHOXcSHOcSHOPcSHETcSHEXcSHE",
   "cSHEPcSHUTcSHUXcSHUcSHUPcSHURXcSHURcSHYTcSHYXcSHYcSHYPcSHYRXcSHYRcRATcRAXcRAcRAPcRUOXcRUOcRUOP",
   "cROTcROXcROcROPcREXcREcREPcRUTcRUXcRUcRUPcRURXcRURcRYTcRYXcRYcRYPcRYRXcRYRcJITcJIXcJIcJIPcJIET",
   "cJIEXcJIEcJIEPcJUOTcJUOXcJUOcJUOPcJOTcJOXcJOcJOPcJUTcJUXcJUcJUPcJURXcJURcJYTcJYXcJYcJYPcJYRX",
   "cJYRcQITcQIXcQIcQIPcQIETcQIEXcQIEcQIEPcQUOTcQUOXcQUOcQUOPcQOTcQOXcQOcQOPcQUTcQUXcQUcQUPcQURX",
   "cQURcQYTcQYXcQYcQYPcQYRXcQYRcJJITcJJIXcJJIcJJIPcJJIETcJJIEXcJJIEcJJIEPcJJUOXcJJUOcJJUOPcJJOT",
   "cJJOXcJJOcJJOPcJJUTcJJUXcJJUcJJUPcJJURXcJJURcJJYTcJJYXcJJYcJJYPcNJITcNJIXcNJIcNJIPcNJIETcNJIEX",
   "cNJIEcNJIEPcNJUOXcNJUOcNJOTcNJOXcNJOcNJOPcNJUXcNJUcNJUPcNJURXcNJURcNJYTcNJYXcNJYcNJYPcNJYRX",
   "cNJYRcNYITcNYIXcNYIcNYIPcNYIETcNYIEXcNYIEcNYIEPcNYUOXcNYUOcNYUOPcNYOTcNYOXcNYOcNYOPcNYUTcNYUX",
   "cNYUcNYUPcXITcXIXcXIcXIPcXIETcXIEXcXIEcXIEPcXUOXcXUOcXOTcXOXcXOcXOPcXYTcXYXcXYcXYPcXYRXcXYR",
   "cYITcYIXcYIcYIPcYIETcYIEXcYIEcYIEPcYUOTcYUOXcYUOcYUOPcYOTcYOXcYOcYOPcYUTcYUXcYUcYUPcYURXcYUR",
   "cYYTcYYXcYYcYYPcYYRXcYYR@A490bRADICAL QOTcLIcKITcNYIPcCYPcSSIcGGOPcGEPcMIcHXITcLYRcBBUTcMOPcYO",
   "cPUTcHXUOcTATcGAcZUPcCYTcDDURcBURcGGUOcNYOPcTUcOPcJJUTcZOTcPYTcHMOcYITcVURcSHYcVEPcZAcJOcNZUP",
   "cJJYcGOTcJJIEcWOcDUcSHURcLIEcCYcCUOPcCIPcHXOPcSHATcZURcSHOPcCHEcZZIETcNBIEcKE@A4D0",
   "aLISU LETTER BAcPAcPHAcDAcTAcTHAcGAcKAcKHAcJAcCAcCHAcDZAcTSAcTSHAcMAcNAcLAcSAcZHAcZAcNGAcHAcXA",
   "cHHAcFAcWAcSHAcYAcGHAcAcAEcEcEUcIcOcUcUEcUHcOEcTONE MYA TIdNA POdMYA CYAeBOeNAeJEU",
   "bPUNCTUATION COMMAcFULL STOP"]

end ClassSchema.Text.CharacterName
